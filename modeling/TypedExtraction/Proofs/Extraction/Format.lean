import TypedExtraction.Proofs.Extraction.Outcome
import TypedExtraction.Proofs.Reader.Integers

/-!
# Formatting with a template

A template can also be written out: `Template.fill` puts a value in the place of
each joker, in the form that `Value.written` gives it. Extraction takes the values
out again (`extractKinds_fill`), provided that each of them ends where it can be
seen to end. Only numbers and the rest of a text do not show this themselves
(`Value.EndsBefore`).
-/

namespace TypedExtraction

open Text Extraction

namespace Value

def written : Value → List Char
  | .char c => [c]
  | .str text => Quoted.encode '"' text.toList
  | .unsigned n => Decimal.write n.toNat
  | .signed n => Decimal.writeInt n.toInt
  | .bool b => Reader.boolWord b
  | .tail text => text.toList

def IsInteger (v : Value) : Prop := v.kind = .unsigned ∨ v.kind = .signed

/-- A value ends where `rest` follows: no digit may follow a number, and nothing the rest of a
text. -/
structure EndsBefore (v : Value) (rest : Cursor) : Prop where
  noDigit : v.IsInteger → Decimal.NoDigitAhead rest
  nothing : v.kind = .tail → rest = []

/-- **A value is read back from its written form,** whatever stands behind its end. -/
theorem read?_written_append (v : Value) {rest : Cursor} (h : v.EndsBefore rest) :
    v.kind.reader.read? (v.written ++ rest) = some ⟨v, v.written.length⟩ := by
  cases v with
  | char c => rfl
  | str text =>
    have hscan := Quoted.scan?_encode (by decide : '"' ≠ '\\') text.toList rest
    refine Reader.read?_map_eq_some_iff.2 ⟨⟨text, _⟩, ?_, rfl⟩
    refine Option.map_eq_some_iff.2 ⟨_, hscan, ?_⟩
    rw [Reading.map, String.ofList_toList]
    rfl
  | unsigned n =>
    have hread := Reader.read?_unsigned_padded n 0 (h.noDigit (.inl rfl))
    rw [Decimal.padded_zero_natCast] at hread
    exact Reader.read?_map_eq_some_iff.2 ⟨_, hread, rfl⟩
  | signed n =>
    have hread := Reader.read?_signed_padded n 0 (h.noDigit (.inr rfl))
    rw [Decimal.padded_zero] at hread
    exact Reader.read?_map_eq_some_iff.2 ⟨_, hread, rfl⟩
  | bool b => cases b <;> rfl
  | tail text =>
    obtain rfl := h.nothing rfl
    refine Reader.read?_map_eq_some_iff.2 ⟨⟨text, text.toList.length⟩, ?_, rfl⟩
    simp [Reader.rest, written, Cursor.toText]

end Value

/-- The text of a template with values in the places of its jokers. -/
def Template.fill (joker : Char) : List Char → List Value → List Char
  | [], _ => []
  | c :: chars, values =>
    if c = joker then values.head?.elim [] Value.written ++ fill joker chars values.tail
    else c :: fill joker chars values

/-- The joker in front of `after` stands for `value`, and the jokers in `after` for `more`. -/
def Template.Gap (joker : Char) (chars : List Char) (values : List Value) (value : Value)
    (after : List Char) (more : List Value) : Prop :=
  ∃ before filled, chars = before ++ joker :: after ∧ values = filled ++ value :: more ∧
    before.count joker = filled.length

namespace Template

section
variable {joker : Char} {literal chars after : List Char} {values more : List Value}
  {v value : Value}

theorem fill_append (hj : joker ∉ literal) (chars : List Char) (values : List Value) :
    fill joker (literal ++ chars) values = literal ++ fill joker chars values := by
  induction literal with
  | nil => rfl
  | cons c literal ih =>
    obtain ⟨hc, hl⟩ := List.ne_and_not_mem_of_not_mem_cons hj
    rw [List.cons_append, fill, if_neg hc.symm, ih hl, List.cons_append]

theorem fill_gap (hj : joker ∉ literal) (chars : List Char) (v : Value) (values : List Value) :
    fill joker (literal ++ joker :: chars) (v :: values) =
      literal ++ (v.written ++ fill joker chars values) := by
  rw [fill_append hj, fill, if_pos rfl]
  rfl

theorem fill_of_not_mem (hj : joker ∉ literal) (values : List Value) :
    fill joker literal values = literal := by
  have h := fill_append hj [] values
  rwa [List.append_nil, fill, List.append_nil] at h

theorem not_gap_nil : ¬ Gap joker chars [] value after more := by
  rintro ⟨before, filled, -, h, -⟩
  cases filled <;> cases h

theorem gap_iff (hj : joker ∉ literal) :
    Gap joker (literal ++ joker :: chars) (v :: values) value after more ↔
      (v = value ∧ chars = after ∧ values = more) ∨ Gap joker chars values value after more := by
  constructor
  · rintro ⟨before, filled, hchars, hvalues, hcount⟩
    cases filled with
    | nil =>
      obtain ⟨rfl, rfl⟩ := Cursor.append_cons_inj hj (List.count_eq_zero.1 hcount) hchars
      obtain ⟨rfl, rfl⟩ := List.cons.inj hvalues
      exact .inl ⟨rfl, rfl, rfl⟩
    | cons f filled =>
      have hmem : joker ∈ before := List.count_pos_iff.1 (by rw [hcount]; exact Nat.succ_pos _)
      obtain ⟨literal', before, rfl, hj'⟩ := List.eq_append_cons_of_mem hmem
      rw [List.append_assoc, List.cons_append] at hchars
      obtain ⟨rfl, rfl⟩ := Cursor.append_cons_inj hj hj' hchars
      obtain ⟨rfl, rfl⟩ := List.cons.inj hvalues
      refine .inr ⟨before, filled, rfl, rfl, ?_⟩
      rw [List.count_append, List.count_eq_zero.2 hj', List.count_cons_self] at hcount
      simpa using hcount
  · rintro (⟨rfl, rfl, rfl⟩ | ⟨before, filled, rfl, rfl, hcount⟩)
    · exact ⟨literal, [], rfl, rfl, List.count_eq_zero.2 hj⟩
    · refine ⟨literal ++ joker :: before, v :: filled, by simp, rfl, ?_⟩
      rw [List.count_append, List.count_eq_zero.2 hj, List.count_cons_self, hcount, Nat.zero_add,
        List.length_cons]

end

end Template

namespace Extraction

def slotOf (v : Value) : Slot := ⟨.dynamic v.kind, some v⟩

theorem Piece.reads_written (literal : List Char) {v : Value} {rest : Cursor}
    (h : v.EndsBefore rest) : Piece.Reads ⟨literal, .dynamic v.kind, v, v.written⟩ rest := by
  have hread := v.read?_written_append h
  refine ⟨hread, fun htail hw => ?_⟩
  have hpos := v.kind.lawful_reader.length_pos htail hread
  rw [show v.written = [] from hw] at hpos
  exact Nat.lt_irrefl 0 hpos

/-- A template that is filled with values decomposes into these. -/
theorem exists_walk_fill {joker : Char} {chars : List Char} {values : List Value}
    (hcount : chars.count joker = values.length)
    (hends : ∀ value after more, Template.Gap joker chars values value after more →
      value.EndsBefore (Template.fill joker after more)) :
    ∃ pieces last, joker ∉ last ∧ pieces.map Piece.slot = values.map slotOf ∧
      Walk joker pieces chars (Template.fill joker chars values) last last := by
  induction values generalizing chars with
  | nil =>
    have hj : joker ∉ chars := List.count_eq_zero.1 hcount
    refine ⟨[], chars, hj, rfl, walk_nil_iff.2 ⟨rfl, Template.fill_of_not_mem hj []⟩⟩
  | cons v values ih =>
    have hmem : joker ∈ chars := List.count_pos_iff.1 (by rw [hcount]; exact Nat.succ_pos _)
    obtain ⟨literal, chars, rfl, hj⟩ := List.eq_append_cons_of_mem hmem
    rw [List.count_append, List.count_eq_zero.2 hj, List.count_cons_self, Nat.zero_add,
      List.length_cons, Nat.succ_inj] at hcount
    -- the values behind the first one end as they do in the template from there on
    obtain ⟨pieces, last, hlast, hslots, hw⟩ := ih hcount fun value after more h =>
      hends value after more ((Template.gap_iff hj).2 (.inr h))
    have hv := hends v chars values ((Template.gap_iff hj).2 (.inl ⟨rfl, rfl, rfl⟩))
    refine ⟨⟨literal, .dynamic v.kind, v, v.written⟩ :: pieces, last, hlast, ?_, ?_⟩
    · rw [List.map_cons, List.map_cons, hslots]
      rfl
    · exact walk_cons_iff.2 ⟨chars, _, rfl, Template.fill_gap hj chars v values, hj,
        Piece.reads_written literal hv, hw⟩

/-- **Extraction undoes formatting.** Where a template is filled with a value for each of its
jokers, the rest of a text is the last thing in it and no number is followed by a digit, extraction
succeeds and gives the values back. -/
theorem extractKinds_fill (template : Template) (values : List Value)
    (hcount : template.jokerCount = values.length)
    (htail : ∀ value after more,
      Template.Gap template.joker template.chars values value after more →
      value.kind = .tail → after = [])
    (hdigit : ∀ value after more,
      Template.Gap template.joker template.chars values value after more →
      value.IsInteger → Decimal.NoDigitAhead (Template.fill template.joker after more)) :
    let report := extractKinds template (Template.fill template.joker template.chars values)
      (values.map Value.kind)
    report.outcome = .ok ∧ report.slots.map Slot.value? = values.map some := by
  intro report
  obtain ⟨pieces, last, hlast, hslots, hw⟩ := exists_walk_fill hcount fun value after more h =>
    ⟨hdigit value after more h, fun hkind => by rw [htail value after more h hkind]; rfl⟩
  have htypes : pieces.map Piece.type =
      ((values.map Value.kind).map fun kind => Slot.empty (.dynamic kind)).map Slot.type := by
    have h := congrArg (List.map Slot.type) hslots
    simpa [Function.comp_def, Piece.slot, slotOf, Slot.empty] using h
  have hreport : report = ⟨.ok, pieces.map Piece.slot, consumedEvents 0 pieces⟩ :=
    Decomposes.extract_eq ⟨htypes, hw, hlast⟩
  rw [hreport]
  refine ⟨rfl, ?_⟩
  dsimp only
  rw [hslots, List.map_map]
  rfl

/-- The least number, a text with quotes, backslashes and a joker in it, a character that is the
joker, a truth value and an empty rest, with nothing but a joker between some of them. -/
theorem extractKinds_fill_jokers :
    let template : Template := ⟨"n=$;$$$:$", '$'⟩
    let values : List Value := [.signed (BitVec.intMin 64), .str "\"$\" \\ n=", .char '$',
      .bool false, .tail ""]
    let input := Template.fill '$' template.chars values
    input = "n=-9223372036854775808;\"\\\"$\\\" \\\\ n=\"$false:".toList ∧
      (extractKinds template input (values.map Value.kind)).outcome = .ok ∧
      (extractKinds template input (values.map Value.kind)).slots.map Slot.value? =
        values.map some := by
  intro template values input
  have hchars : template.chars = ['n', '='] ++ '$' :: ([';'] ++ '$' :: ([] ++ '$' :: ([] ++ '$' ::
    ([':'] ++ '$' :: [])))) := by decide
  have hgap : ∀ value after more, Template.Gap '$' template.chars values value after more →
      (value.IsInteger → after = ";$$$:$".toList) ∧ (value.kind = .tail → after = []) := by
    intro value after more h
    rw [hchars] at h
    simp only [values, Template.gap_iff (show '$' ∉ ['n', '='] by decide),
      Template.gap_iff (show '$' ∉ [';'] by decide), Template.gap_iff (show '$' ∉ [':'] by decide),
      Template.gap_iff (show '$' ∉ [] by decide), Template.not_gap_nil, or_false] at h
    rcases h with ⟨rfl, rfl, -⟩ | ⟨rfl, rfl, -⟩ | ⟨rfl, rfl, -⟩ | ⟨rfl, rfl, -⟩ | ⟨rfl, rfl, -⟩ <;>
      simp [Value.IsInteger, Value.kind]
  have h := extractKinds_fill template values (by decide)
    (fun value after more hv => (hgap value after more hv).2)
    (fun value after more hv hint c hc => by
      rw [(hgap value after more hv).1 hint] at hc
      cases hc
      rfl)
  exact ⟨by decide +kernel, h⟩

end Extraction

end TypedExtraction
