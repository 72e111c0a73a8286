import TypedExtraction.Proofs.Extraction.Walk

/-!
# How a run goes and how it ends

A run follows a walk as far as one leads (`run_of_walk`). Where no walk leads
further it ends, and there are six ways in which it can (`Stop`): each belongs to
one outcome, and at every place where a run ends one of them applies
(`exists_stop_or_reads`).
-/

namespace TypedExtraction.Extraction

open Text

variable {joker : Char}

/-! ## Literal texts -/

theorem matchLiterals_joker (template : List Char) (input : Cursor) :
    matchLiterals joker (joker :: template) input = .ok (template, input) := by
  rw [matchLiterals.eq_def]
  simp only [if_pos]

theorem matchLiterals_cons_nil {c : Char} (hc : joker ≠ c) (template : List Char) :
    matchLiterals joker (c :: template) [] = .error .templateRemains := by
  rw [matchLiterals, if_neg hc.symm]

theorem matchLiterals_cons_cons {c : Char} (hc : joker ≠ c) (template : List Char) (a : Char)
    (input : Cursor) :
    matchLiterals joker (c :: template) (a :: input) =
      if a = c then matchLiterals joker template input else .error .literalMismatch := by
  rw [matchLiterals.eq_def]
  simp only [if_neg hc.symm]

theorem matchLiterals_append {literal : List Char} (hj : joker ∉ literal) (template : List Char)
    (input : Cursor) :
    matchLiterals joker (literal ++ template) (literal ++ input) =
      matchLiterals joker template input := by
  induction literal with
  | nil => rfl
  | cons c literal ih =>
    obtain ⟨hc, hl⟩ := List.ne_and_not_mem_of_not_mem_cons hj
    rw [List.cons_append, List.cons_append, matchLiterals_cons_cons hc, if_pos rfl, ih hl]

theorem matchLiterals_gap {literal : List Char} (hj : joker ∉ literal) (template : List Char)
    (input : Cursor) :
    matchLiterals joker (literal ++ joker :: template) (literal ++ input) =
      .ok (template, input) := by
  rw [matchLiterals_append hj, matchLiterals_joker]

theorem matchLiterals_end {literal : List Char} (hj : joker ∉ literal) (input : Cursor) :
    matchLiterals joker literal (literal ++ input) = .ok ([], input) := by
  have h := matchLiterals_append hj [] input
  rw [List.append_nil] at h
  rw [h, matchLiterals]

/-- Two texts differ at a place inside both. -/
def Differ (a b : List Char) : Prop :=
  ∃ (i : Nat) (x y : Char), a[i]? = some x ∧ b[i]? = some y ∧ x ≠ y

theorem matchLiterals_of_differ {literal : List Char} (hj : joker ∉ literal) {input : Cursor}
    (h : Differ input literal) (template : List Char) :
    matchLiterals joker (literal ++ template) input = .error .literalMismatch := by
  obtain ⟨i, x, y, hx, hy, hne⟩ := h
  induction literal generalizing i input with
  | nil => cases hy
  | cons c literal ih =>
    obtain ⟨hc, hl⟩ := List.ne_and_not_mem_of_not_mem_cons hj
    cases input with
    | nil => cases hx
    | cons a input =>
      rw [List.cons_append, matchLiterals_cons_cons hc]
      split
      · rename_i hac
        cases i with
        | zero =>
          cases hx
          cases hy
          exact absurd hac hne
        | succ i => exact ih hl i hx hy
      · rfl

theorem matchLiterals_of_isPrefix {literal : List Char} (hj : joker ∉ literal) {input : Cursor}
    (h : input <+: literal) (hne : input ≠ literal) (template : List Char) :
    matchLiterals joker (literal ++ template) input = .error .templateRemains := by
  obtain ⟨missing, rfl⟩ := h
  obtain ⟨hi, hm⟩ := not_or.1 (mt List.mem_append.2 hj)
  have happ := matchLiterals_append hi (missing ++ template) []
  rw [List.append_nil] at happ
  rw [List.append_assoc, happ]
  cases missing with
  | nil => simp at hne
  | cons c missing =>
    obtain ⟨hc, -⟩ := List.ne_and_not_mem_of_not_mem_cons hm
    rw [List.cons_append, matchLiterals_cons_nil hc]

theorem prefix_or_differ_or_prefix (literal input : List Char) :
    literal <+: input ∨ Differ input literal ∨ (input <+: literal ∧ input ≠ literal) := by
  induction literal generalizing input with
  | nil => exact .inl List.nil_prefix
  | cons c literal ih =>
    cases input with
    | nil => exact .inr (.inr ⟨List.nil_prefix, (List.cons_ne_nil c literal).symm⟩)
    | cons a input =>
      by_cases hac : a = c
      · subst hac
        rcases ih input with h | ⟨i, x, y, hx, hy, hne⟩ | ⟨h, hne⟩
        · exact .inl (List.cons_prefix_cons.2 ⟨rfl, h⟩)
        · exact .inr (.inl ⟨i + 1, x, y, hx, hy, hne⟩)
        · exact .inr (.inr ⟨List.cons_prefix_cons.2 ⟨rfl, h⟩, fun he => hne (List.cons.inj he).2⟩)
      · exact .inr (.inl ⟨0, a, c, rfl, rfl, hac⟩)

/-! ## Single steps -/

section
variable {index : Nat} {slot : Slot} {slots : List Slot} {template template' : List Char}
  {input input' : Cursor}

theorem run_of_error {outcome : Outcome}
    (h : matchLiterals joker template input = .error outcome) :
    run joker index slots template input = ⟨outcome, slots, []⟩ := by
  cases slots <;> simp only [run, h]

theorem run_nil_of_ok (h : matchLiterals joker template input = .ok (template', input')) :
    run joker index [] template input =
      ⟨if input' = [] then .ok else .inputRemains, [], []⟩ := by
  cases input' <;> simp [run, h]

theorem run_cons_of_exhausted (h : matchLiterals joker template input = .ok (template', []))
    (ht : slot.isTail = false) :
    run joker index (slot :: slots) template input = ⟨.inputExhausted, slot :: slots, []⟩ := by
  simp [run, h, ht]

theorem run_cons_of_unreadable (h : matchLiterals joker template input = .ok (template', input'))
    (hne : input' ≠ []) (hr : slot.type.reader.read? input' = none) :
    run joker index (slot :: slots) template input =
      ⟨.unreadableValue, slot.clear :: slots, [.rejected index input'.length]⟩ := by
  have ht : slot.isTail = false := slot.type.lawful_reader.takesRest_eq_false hr
  simp [run, h, ht, hne, Slot.fill_eq, hr, Slot.clear, Slot.empty]

theorem run_cons_of_reads {p : Piece} (hp : p.Reads input') (ht : slot.type = p.type)
    (h : matchLiterals joker template input = .ok (template', p.word ++ input')) :
    run joker index (slot :: slots) template input =
      let more := run joker (index + 1) slots template' input'
      ⟨more.outcome, p.slot :: more.slots, .consumed index p.word.length :: more.events⟩ := by
  obtain ⟨type, content⟩ := slot
  obtain rfl : type = p.type := ht
  have hadv : Cursor.advance (p.word ++ input') p.word.length = input' := List.drop_left
  -- neither test for an empty rest fires: the word is empty for a reader of the rest only
  have hempty : ((p.word ++ input').isEmpty && !p.type.reader.takesRest) = false := by
    cases htail : p.type.reader.takesRest with
    | true => exact Bool.and_false _
    | false => simp [hp.2 htail]
  have hzero : (decide (p.word.length = 0) && !p.type.reader.takesRest) = false := by
    cases htail : p.type.reader.takesRest with
    | true => exact Bool.and_false _
    | false => simp [hp.2 htail]
  simp only [run, h, Slot.isTail, hempty, Slot.fill_eq, hp.1, Reading.lengthOf_some, hzero, hadv]
  rfl

/-! ## Runs along a walk -/

/-- What is told of the values of a walk. -/
def consumedEvents (index : Nat) : List Piece → List Event
  | [] => []
  | p :: ps => .consumed index p.word.length :: consumedEvents (index + 1) ps

/-- **A walk drives a run.** -/
theorem run_of_walk {ps : List Piece} (h : Walk joker ps template input template' input')
    (index : Nat) {filled : List Slot} (ht : filled.map Slot.type = ps.map Piece.type)
    (slots : List Slot) :
    run joker index (filled ++ slots) template input =
      let more := run joker (index + ps.length) slots template' input'
      ⟨more.outcome, ps.map Piece.slot ++ more.slots,
        consumedEvents index ps ++ more.events⟩ := by
  induction ps generalizing index filled template input with
  | nil =>
    obtain rfl := List.map_eq_nil_iff.1 ht
    obtain ⟨rfl, rfl⟩ := walk_nil_iff.1 h
    rfl
  | cons p ps ih =>
    cases filled with
    | nil => cases ht
    | cons slot filled =>
      obtain ⟨hp, hts⟩ := List.cons.inj ht
      obtain ⟨t, i, rfl, rfl, hj, hr, hw⟩ := walk_cons_iff.1 h
      rw [List.cons_append, run_cons_of_reads hr hp (matchLiterals_gap hj t _),
        ih hw (index + 1) hts, List.length_cons, Nat.add_right_comm index 1]
      rfl

/-! ## The end of a run -/

/-- `literal` is the text of a template before its first joker, or all of it if there is none. -/
def IsLiteral (joker : Char) (template literal : List Char) : Prop :=
  joker ∉ literal ∧ (template = literal ∨ ∃ t, template = literal ++ joker :: t)

theorem exists_isLiteral (joker : Char) (template : List Char) :
    ∃ literal, IsLiteral joker template literal := by
  by_cases h : joker ∈ template
  · obtain ⟨literal, t, rfl, hl⟩ := List.eq_append_cons_of_mem h
    exact ⟨literal, hl, .inr ⟨t, rfl⟩⟩
  · exact ⟨template, h, .inl rfl⟩

theorem IsLiteral.unique {literal literal' : List Char} (h : IsLiteral joker template literal)
    (h' : IsLiteral joker template literal') : literal = literal' := by
  obtain ⟨hl, rfl | ⟨t, rfl⟩⟩ := h
  · obtain ⟨-, rfl | ⟨t', rfl⟩⟩ := h'
    · rfl
    · exact absurd (List.mem_append_right _ List.mem_cons_self) hl
  · obtain ⟨hl', rfl | ⟨t', ht⟩⟩ := h'
    · exact absurd (List.mem_append_right _ List.mem_cons_self) hl'
    · exact (Cursor.append_cons_inj hl hl' ht).1

theorem IsLiteral.eq_of_count_eq_zero {literal : List Char} (h : IsLiteral joker template literal)
    (hc : template.count joker = 0) : template = literal := by
  obtain ⟨-, ht | ⟨t, rfl⟩⟩ := h
  · exact ht
  · exact absurd (List.mem_append_right _ List.mem_cons_self) (List.count_eq_zero.1 hc)

theorem IsLiteral.exists_of_count_pos {literal : List Char} (h : IsLiteral joker template literal)
    (hc : 0 < template.count joker) : ∃ t, template = literal ++ joker :: t := by
  obtain ⟨hl, rfl | ht⟩ := h
  · exact absurd (List.count_pos_iff.1 hc) hl
  · exact ht

/-- The ways in which a run can end where the slots `slots` are not filled yet, `literal` is the
next literal text of the template and `input` is left. -/
inductive Stop (slots : List Slot) (literal : List Char) (input : Cursor) : Outcome → Prop where
  | literalMismatch : Differ input literal → Stop slots literal input .literalMismatch
  | templateRemains : input <+: literal → input ≠ literal →
      Stop slots literal input .templateRemains
  | inputExhausted {slot : Slot} {more : List Slot} : slots = slot :: more → slot.isTail = false →
      input = literal → Stop slots literal input .inputExhausted
  | unreadableValue {slot : Slot} {more : List Slot} {after : Cursor} : slots = slot :: more →
      input = literal ++ after → after ≠ [] → slot.type.reader.read? after = none →
      Stop slots literal input .unreadableValue
  | inputRemains {after : Cursor} : slots = [] → input = literal ++ after → after ≠ [] →
      Stop slots literal input .inputRemains
  | ok : slots = [] → input = literal → Stop slots literal input .ok

/-- What a run tells where it ends: the slot that found no value, and how much was left for it. -/
def endEvents (index remaining : Nat) : Outcome → List Event
  | .unreadableValue => [.rejected index remaining]
  | _ => []

theorem run_of_stop (index : Nat) {literal : List Char} {outcome : Outcome}
    (hl : IsLiteral joker template literal) (hc : template.count joker = slots.length)
    (h : Stop slots literal input outcome) :
    (run joker index slots template input).outcome = outcome ∧
      (run joker index slots template input).events =
        endEvents index (input.length - literal.length) outcome := by
  obtain ⟨tail, rfl⟩ : ∃ tail, template = literal ++ tail := by
    obtain ⟨-, rfl | ⟨t, rfl⟩⟩ := hl
    · exact ⟨[], (List.append_nil _).symm⟩
    · exact ⟨_, rfl⟩
  cases h with
  | literalMismatch h =>
    rw [run_of_error (matchLiterals_of_differ hl.1 h tail)]
    exact ⟨rfl, rfl⟩
  | templateRemains h hne =>
    rw [run_of_error (matchLiterals_of_isPrefix hl.1 h hne tail)]
    exact ⟨rfl, rfl⟩
  | inputExhausted hs ht hi =>
    subst hs hi
    obtain ⟨t, htail⟩ := hl.exists_of_count_pos (by rw [hc]; exact Nat.succ_pos _)
    have hm := matchLiterals_gap hl.1 t []
    rw [List.append_nil] at hm
    rw [htail, run_cons_of_exhausted hm ht]
    exact ⟨rfl, rfl⟩
  | unreadableValue hs hi hne hr =>
    subst hs hi
    obtain ⟨t, htail⟩ := hl.exists_of_count_pos (by rw [hc]; exact Nat.succ_pos _)
    rw [htail, run_cons_of_unreadable (matchLiterals_gap hl.1 t _) hne hr, List.length_append,
      Nat.add_sub_cancel_left]
    exact ⟨rfl, rfl⟩
  | inputRemains hs hi hne =>
    subst hs hi
    rw [hl.eq_of_count_eq_zero hc, run_nil_of_ok (matchLiterals_end hl.1 _), if_neg hne]
    exact ⟨rfl, rfl⟩
  | ok hs hi =>
    subst hs hi
    have hm := matchLiterals_end hl.1 []
    rw [List.append_nil] at hm
    rw [hl.eq_of_count_eq_zero hc, run_nil_of_ok hm, if_pos rfl]
    exact ⟨rfl, rfl⟩

theorem exists_stop_or_reads (slots : List Slot) (literal : List Char) (input : Cursor) :
    (∃ outcome, Stop slots literal input outcome) ∨
      ∃ (slot : Slot) (more : List Slot) (p : Piece) (rest : Cursor), slots = slot :: more ∧
        p.type = slot.type ∧ p.literal = literal ∧ input = p.literal ++ (p.word ++ rest) ∧
        p.Reads rest := by
  rcases prefix_or_differ_or_prefix literal input with ⟨after, rfl⟩ | h | ⟨h, hne⟩
  · cases slots with
    | nil =>
      by_cases ha : after = []
      · exact .inl ⟨_, .ok rfl (by rw [ha, List.append_nil])⟩
      · exact .inl ⟨_, .inputRemains rfl rfl ha⟩
    | cons slot more =>
      cases hr : slot.type.reader.read? after with
      | none =>
        by_cases ha : after = []
        · have ht : slot.isTail = false := slot.type.lawful_reader.takesRest_eq_false hr
          exact .inl ⟨_, .inputExhausted rfl ht (by rw [ha, List.append_nil])⟩
        · exact .inl ⟨_, .unreadableValue rfl rfl ha hr⟩
      | some r =>
        obtain ⟨word, rest, rfl, hp⟩ := Piece.exists_reads hr literal
        exact .inr ⟨slot, more, _, rest, rfl, rfl, rfl, rfl, hp⟩
  · exact .inl ⟨_, .literalMismatch h⟩
  · exact .inl ⟨_, .templateRemains h hne⟩

end

end TypedExtraction.Extraction
