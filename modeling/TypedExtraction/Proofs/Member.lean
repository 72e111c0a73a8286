import TypedExtraction.Proofs.Reader

/-!
# The grammar of class lists

A `Spelling` is the written form of one member: a quoted text with its elements,
or two characters around a hyphen. The same text can be read in one way only,
because a spelled interval must not be the beginning of a quoted text
(`Spelling.Fits`), which may depend on all that follows it. A class list takes
as many spellings as there are (`exists_row`), and a row of spellings that
nothing continues is read back whole (`run_spell`).
-/

namespace TypedExtraction.Member

open Text

/-- The written form of a member. -/
inductive Spelling where
  | literal (elements : List Quoted.Element)
  | interval (first last : Char)
  deriving DecidableEq, Repr

namespace Spelling

def written : Spelling → List Char
  | .literal es => Quoted.quote '\'' es
  | .interval first last => [first, '-', last]

def member : Spelling → Member
  | .literal es => .literal (String.ofList (es.map Quoted.Element.value))
  | .interval first last => .interval first last

/-- A spelling stands where `rest` follows it: the elements of a literal are valid, and an interval
that begins with a quote is not the beginning of a quoted text. -/
def Fits : Spelling → Cursor → Prop
  | .literal es, _ => Quoted.Valid '\'' es
  | .interval first last, rest => first = '\'' →
      ∀ es, Quoted.Valid '\'' es → ¬ Quoted.quote '\'' es <+: first :: '-' :: last :: rest

/-- The spelling in which a member is written. -/
def ofMember : Member → Spelling
  | .literal text => .literal (text.toList.map (Quoted.Element.ofChar '\''))
  | .interval first last => .interval first last

theorem written_ofMember (m : Member) : (ofMember m).written = m.written := by
  cases m with
  | literal text => exact (Quoted.encode_eq_quote '\'' text.toList).symm
  | interval first last => rfl

@[simp] theorem member_ofMember (m : Member) : (ofMember m).member = m := by
  cases m with
  | literal text => simp [ofMember, member, Function.comp_def]
  | interval first last => rfl

theorem scan?_eq_none_of_fits {first last : Char} {rest : Cursor}
    (h : (interval first last).Fits rest) :
    Quoted.scan? '\'' (first :: '-' :: last :: rest) = none := by
  by_cases hq : first = '\''
  · exact (Quoted.scan?_eq_none_iff (by decide)).2 (h hq)
  · rw [Quoted.scan?, if_neg hq]

theorem fits_interval_of_scan? {first last : Char} {rest : Cursor}
    (h : Quoted.scan? '\'' (first :: '-' :: last :: rest) = none) :
    (interval first last).Fits rest :=
  fun _ => (Quoted.scan?_eq_none_iff (by decide)).1 h

instance : (s : Spelling) → (rest : Cursor) → Decidable (s.Fits rest)
  | .literal es, _ => inferInstanceAs (Decidable (Quoted.Valid '\'' es))
  | .interval _ _, _ => decidable_of_iff _ ⟨fits_interval_of_scan?, scan?_eq_none_of_fits⟩

/-! ## One member -/

theorem read?_written_append {s : Spelling} {rest : Cursor} (h : s.Fits rest) :
    read? (s.written ++ rest) = some ⟨s.member, s.written.length⟩ := by
  cases s with
  | literal es =>
    have hs := Quoted.scan?_quote (by decide) h rest
    rw [read?, Reader.quoted]
    simp only [written, hs]
    rfl
  | interval first last =>
    have hs := scan?_eq_none_of_fits h
    rw [read?, Reader.quoted]
    simp only [written, List.cons_append, List.nil_append, hs]
    rfl

theorem exists_of_read? {input : Cursor} {r : Reading Member} (h : read? input = some r) :
    ∃ s rest, input = written s ++ rest ∧ s.Fits rest ∧ r = ⟨s.member, s.written.length⟩ := by
  unfold read? at h
  split at h
  · rename_i s hs
    cases h
    obtain ⟨v, hv, rfl⟩ := Option.map_eq_some_iff.1 hs
    obtain ⟨es, rest, hes, rfl, rfl⟩ := Quoted.exists_quote_of_scan? hv
    exact ⟨.literal es, rest, rfl, hes, rfl⟩
  · rename_i hs
    obtain ⟨v, hv, rfl⟩ := Option.map_eq_some_iff.1 h
    obtain ⟨first, last, rest, rfl, rfl⟩ := read?_intervalReader_eq_some_iff.1 hv
    exact ⟨.interval first last, rest, rfl,
      fits_interval_of_scan? (Option.map_eq_none_iff.1 hs), rfl⟩

theorem written_append_inj {s s' : Spelling} {rest rest' : Cursor} (h : s.Fits rest)
    (h' : s'.Fits rest') (heq : s.written ++ rest = s'.written ++ rest') :
    s = s' ∧ rest = rest' := by
  have hr : (⟨s.member, s.written.length⟩ : Reading Member) = ⟨s'.member, s'.written.length⟩ := by
    rw [← Option.some_inj, ← read?_written_append h, ← read?_written_append h', heq]
  obtain ⟨hm, -⟩ := Reading.mk.inj hr
  cases s with
  | literal es =>
    cases s' with
    | literal es' =>
      obtain ⟨rfl, hrest⟩ := Quoted.quote_append_inj (by decide) h h' heq
      exact ⟨rfl, hrest⟩
    | interval => cases hm
  | interval first last =>
    cases s' with
    | literal => cases hm
    | interval =>
      cases hm
      exact ⟨rfl, List.append_cancel_left heq⟩

end Spelling

/-! ## Class lists -/

def spell (ss : List Spelling) : List Char := ss.flatMap Spelling.written

/-- Each spelling of a row stands where the others and then `rest` follow it. -/
def Row (ss : List Spelling) (rest : Cursor) : Prop :=
  ∀ before s after, ss = before ++ s :: after → s.Fits (spell after ++ rest)

theorem row_nil (rest : Cursor) : Row [] rest := by
  intro before s after h
  cases before <;> cases h

theorem row_cons_iff {s : Spelling} {ss : List Spelling} {rest : Cursor} :
    Row (s :: ss) rest ↔ s.Fits (spell ss ++ rest) ∧ Row ss rest := by
  constructor
  · intro h
    refine ⟨h [] s ss rfl, fun before t after ht => ?_⟩
    exact h (s :: before) t after (congrArg (s :: ·) ht)
  · rintro ⟨hs, h⟩ before t after ht
    cases before with
    | nil =>
      obtain ⟨rfl, rfl⟩ := List.cons.inj ht
      exact hs
    | cons b before => exact h before t after (List.cons.inj ht).2

instance decidableRow : (ss : List Spelling) → (rest : Cursor) → Decidable (Row ss rest)
  | [], rest => isTrue (row_nil rest)
  | s :: ss, rest =>
    have := decidableRow ss rest
    decidable_of_iff (s.Fits (spell ss ++ rest) ∧ Row ss rest) row_cons_iff.symm

theorem spell_map_ofMember (ms : List Member) :
    spell (ms.map Spelling.ofMember) = ms.flatMap written := by
  rw [spell, List.flatMap_map]
  exact congrArg (ms.flatMap ·) (funext Spelling.written_ofMember)

theorem spell_cons_append (s : Spelling) (ss : List Spelling) (rest : Cursor) :
    spell (s :: ss) ++ rest = s.written ++ (spell ss ++ rest) := by
  rw [spell, List.flatMap_cons, List.append_assoc]
  rfl

/-- **A row that nothing continues is read back whole.** -/
theorem run_spell {ss : List Spelling} {rest : Cursor} (h : Row ss rest)
    (hrest : read? rest = none) :
    run (spell ss ++ rest) = ⟨ss.map Spelling.member, (spell ss).length⟩ := by
  induction ss with
  | nil => exact run_of_none hrest
  | cons s ss ih =>
    obtain ⟨hs, hrow⟩ := row_cons_iff.1 h
    have hlen : (spell (s :: ss)).length = s.written.length + (spell ss).length := by
      simp [spell]
    rw [spell_cons_append, run_of_some (Spelling.read?_written_append hs), hlen]
    dsimp only
    rw [List.drop_left, ih hrow]
    rfl

/-- **A class list takes as many spellings as there are.** -/
theorem exists_row (input : Cursor) :
    ∃ ss rest, input = spell ss ++ rest ∧ Row ss rest ∧ read? rest = none := by
  cases h : read? input with
  | none => exact ⟨[], input, rfl, row_nil input, h⟩
  | some r =>
    obtain ⟨s, tail, heq, hs, rfl⟩ := Spelling.exists_of_read? h
    have hlt : tail.length < input.length := by
      have hpos : 2 ≤ s.written.length := two_le_length_of_read? h
      rw [heq, List.length_append]
      omega
    obtain ⟨ss, rest, rfl, hrow, hrest⟩ := exists_row tail
    refine ⟨s :: ss, rest, ?_, row_cons_iff.2 ⟨hs, hrow⟩, hrest⟩
    rw [heq, spell_cons_append]
termination_by input.length

theorem row_unique {ss ss' : List Spelling} {rest rest' : Cursor} (h : Row ss rest)
    (h' : Row ss' rest') (hrest : read? rest = none) (hrest' : read? rest' = none)
    (heq : spell ss ++ rest = spell ss' ++ rest') : ss = ss' ∧ rest = rest' := by
  induction ss generalizing ss' with
  | nil =>
    cases ss' with
    | nil => exact ⟨rfl, heq⟩
    | cons s' ss' =>
      have hs := Spelling.read?_written_append (row_cons_iff.1 h').1
      rw [← spell_cons_append, ← heq] at hs
      exact absurd (hs.symm.trans hrest) (Option.some_ne_none _)
  | cons s ss ih =>
    obtain ⟨hs, hrow⟩ := row_cons_iff.1 h
    cases ss' with
    | nil =>
      have hs := Spelling.read?_written_append hs
      rw [← spell_cons_append, heq] at hs
      exact absurd (hs.symm.trans hrest') (Option.some_ne_none _)
    | cons s' ss' =>
      obtain ⟨hs', hrow'⟩ := row_cons_iff.1 h'
      rw [spell_cons_append, spell_cons_append] at heq
      obtain ⟨rfl, htail⟩ := Spelling.written_append_inj hs hs' heq
      obtain ⟨rfl, hend⟩ := ih hrow hrow' htail
      exact ⟨rfl, hend⟩

end TypedExtraction.Member

namespace TypedExtraction.Text.Quoted

/-- **Scanning decodes a prefix code.** It finds a quoted text where one is at the front, and nothing
else: a delimiter, elements that are plain characters or characters behind a backslash, and the
delimiter once more. Its length is the number of all these characters, and its value are the
characters of the elements. No other quoted text is at the front of the same input. So an encoded
text is read back whatever stands behind it; between single quotes it is the written form of a
literal. -/
theorem scan?_decodes (delimiter : Char) (hd : delimiter ≠ '\\') (input : Cursor) :
    (∀ text n, scan? delimiter input = some ⟨text, n⟩ ↔
      ∃ es rest, Valid delimiter es ∧ input = quote delimiter es ++ rest ∧
        n = (quote delimiter es).length ∧ text = es.map Element.value) ∧
    (∀ es es', Valid delimiter es → Valid delimiter es' → quote delimiter es <+: input →
      quote delimiter es' <+: input → es = es') ∧
    (∀ text rest, scan? delimiter (encode delimiter text ++ rest) =
      some ⟨text, (encode delimiter text).length⟩) ∧
    (delimiter = '\'' → ∀ text : String,
      (Member.literal text).written = encode delimiter text.toList) := by
  refine ⟨fun text n => ?_, ?_, fun text rest => scan?_encode hd text rest, ?_⟩
  · rw [scan?_eq_some_iff hd]
    refine exists_congr fun es => exists_congr fun rest => ?_
    rw [Reading.mk.injEq, and_comm (a := text = _)]
  · rintro es es' hes hes' ⟨rest, hrest⟩ ⟨rest', hrest'⟩
    exact (quote_append_inj hd hes hes' (hrest.trans hrest'.symm)).1
  · rintro rfl text
    rfl

/-- A delimiter and a backslash are part of the text, and the text ends in front of what could be
the beginning of another one. -/
theorem scan?_decodes_backslashes :
    let input : Cursor := ['"', 'a', '\\', '"', '\\', '\\', '"', '\\', '"', 'b', '"']
    '"' ≠ '\\' ∧ scan? '"' input = some ⟨['a', '"', '\\'], 7⟩ ∧
      ∀ es, Valid '"' es → quote '"' es <+: input →
        es = [.plain 'a', .escaped '"', .escaped '\\'] := by
  intro input
  have hd : '"' ≠ '\\' := by decide
  obtain ⟨hscan, hunique, -⟩ := scan?_decodes '"' hd input
  have hvalid : Valid '"' [.plain 'a', .escaped '"', .escaped '\\'] := by decide
  refine ⟨hd, (hscan _ _).2 ⟨_, ['\\', '"', 'b', '"'], hvalid, rfl, rfl, rfl⟩, fun es hes hpre => ?_⟩
  exact hunique es _ hes hvalid hpre ⟨['\\', '"', 'b', '"'], rfl⟩

end TypedExtraction.Text.Quoted
