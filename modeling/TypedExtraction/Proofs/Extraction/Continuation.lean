import TypedExtraction.Proofs.Extraction.Slots

/-!
# The rest of a text as a continuation

A run never looks ahead: what it does with the beginning of a template is the
same whatever the template goes on with. Either the beginning leads through to a
place in the input from which the rest of the template is run as if from the
start (`Passes.run_eq`), or it fails in one and the same way
(`passes_or_fails`). A slot that takes the rest of the text holds that place, so
an extraction can be cut in two there (`extract_append`).
-/

namespace TypedExtraction

open Text Extraction

namespace Slot

/-- The rest of a text, in a slot that takes it. -/
def rest? : Slot → Option String
  | ⟨.tail, content⟩ => content
  | ⟨.dynamic .tail, some (.tail text)⟩ => some text
  | _ => none

theorem fill_of_isTail {s : Slot} (h : s.isTail = true) (input : Cursor) :
    (s.fill input).1.rest? = some (String.ofList input) ∧ (s.fill input).2 = input.length := by
  rw [fill_eq]
  obtain ⟨type, content⟩ := s
  cases type with
  | tail => exact ⟨rfl, rfl⟩
  | dynamic kind =>
    cases kind with
    | tail => exact ⟨rfl, rfl⟩
    | _ => cases h
  | _ => cases h

end Slot

namespace Extraction

variable {joker : Char}

section
variable {template after : List Char} {input rest : Cursor} {slots more : List Slot}
  {pieces : List Piece} {last : List Char} {outcome : Outcome}

/-! ## Runs in the middle of a template -/

/-- Where a run begins to count its slots makes no difference to them. -/
theorem run_index (index index' : Nat) (slots : List Slot) (template : List Char)
    (input : Cursor) :
    (run joker index slots template input).outcome =
        (run joker index' slots template input).outcome ∧
      (run joker index slots template input).slots =
        (run joker index' slots template input).slots := by
  induction slots generalizing index index' template input with
  | nil => exact ⟨rfl, rfl⟩
  | cons slot slots ih =>
    simp only [run]
    split
    · exact ⟨rfl, rfl⟩
    · split
      · exact ⟨rfl, rfl⟩
      · split
        · exact ⟨rfl, rfl⟩
        · rename_i template' input' _ _ _
          obtain ⟨ho, hs⟩ := ih (index + 1) (index' + 1) template'
            (input'.advance (slot.fill input').2)
          exact ⟨ho, congrArg (_ :: ·) hs⟩

theorem run_append_literal (hj : joker ∉ last) (index : Nat) (slots : List Slot)
    (template : List Char) (input : Cursor) :
    run joker index slots (last ++ template) (last ++ input) =
      run joker index slots template input := by
  cases slots <;> simp only [run, matchLiterals_append hj]

theorem Walk.append_template {template' : List Char} {input' : Cursor}
    (h : Walk joker pieces template input template' input') (after : List Char) :
    Walk joker pieces (template ++ after) input (template' ++ after) input' where
  template_eq := by rw [h.template_eq, List.append_assoc]
  input_eq := h.input_eq
  joker_not_mem := h.joker_not_mem
  reads := h.reads

/-! ## The beginning of a template -/

/-- The beginning `template` of a template fills `slots` with the values of `pieces`, and behind a
last literal text `rest` is left of the input. -/
structure Passes (joker : Char) (slots : List Slot) (template : List Char) (input : Cursor)
    (pieces : List Piece) (last : List Char) (rest : Cursor) : Prop where
  types_eq : slots.map Slot.type = pieces.map Piece.type
  joker_not_mem : joker ∉ last
  walk : Walk joker pieces template input last (last ++ rest)

theorem Passes.count_eq (h : Passes joker slots template input pieces last rest) :
    template.count joker = slots.length := by
  have hlen := congrArg List.length h.types_eq
  rw [List.length_map, List.length_map] at hlen
  rw [h.walk.count_eq, List.count_eq_zero.2 h.joker_not_mem, hlen]
  rfl

/-- The beginning `template` of a template has this outcome for whatever follows it. -/
structure Fails (joker : Char) (slots : List Slot) (template : List Char) (input : Cursor)
    (outcome : Outcome) : Prop where
  ne_ok : outcome ≠ .ok
  outcome_run : ∀ index more after,
    (run joker index (slots ++ more) (template ++ after) input).outcome = outcome

/-- **Behind the beginning of a template the rest of it is run on the rest of the input.** -/
theorem Passes.run_eq (h : Passes joker slots template input pieces last rest) (index : Nat)
    (more : List Slot) (after : List Char) :
    run joker index (slots ++ more) (template ++ after) input =
      let back := run joker (index + pieces.length) more after rest
      ⟨back.outcome, pieces.map Piece.slot ++ back.slots,
        consumedEvents index pieces ++ back.events⟩ := by
  rw [run_of_walk (h.walk.append_template after) index h.types_eq more,
    run_append_literal h.joker_not_mem]

theorem Passes.cons {slot : Slot} {p : Piece} (hp : p.Reads input) (ht : slot.type = p.type)
    (hj : joker ∉ p.literal) (h : Passes joker slots template input pieces last rest) :
    Passes joker (slot :: slots) (p.literal ++ joker :: template) (p.literal ++ (p.word ++ input))
      (p :: pieces) last rest where
  types_eq := by rw [List.map_cons, List.map_cons, ht, h.types_eq]
  joker_not_mem := h.joker_not_mem
  walk := walk_cons_iff.2 ⟨template, input, rfl, rfl, hj, hp, h.walk⟩

theorem Fails.cons {slot : Slot} {p : Piece} (hp : p.Reads input) (ht : slot.type = p.type)
    (hj : joker ∉ p.literal) (h : Fails joker slots template input outcome) :
    Fails joker (slot :: slots) (p.literal ++ joker :: template) (p.literal ++ (p.word ++ input))
      outcome where
  ne_ok := h.ne_ok
  outcome_run index more after := by
    rw [List.cons_append, List.append_assoc, List.cons_append,
      run_cons_of_reads hp ht (matchLiterals_gap hj _ _)]
    exact h.outcome_run (index + 1) more after

theorem exists_fails_of_not_isPrefix {literal : List Char} (hj : joker ∉ literal)
    (h : ¬ literal <+: input) (slots : List Slot) (template : List Char) :
    ∃ outcome, Fails joker slots (literal ++ template) input outcome := by
  rcases prefix_or_differ_or_prefix literal input with hp | hd | ⟨hp, hne⟩
  · exact absurd hp h
  · refine ⟨.literalMismatch, by decide, fun index more after => ?_⟩
    rw [List.append_assoc, run_of_error (matchLiterals_of_differ hj hd _)]
  · refine ⟨.templateRemains, by decide, fun index more after => ?_⟩
    rw [List.append_assoc, run_of_error (matchLiterals_of_isPrefix hj hp hne _)]

/-- Where no value can be read behind a literal text, no later part of the template helps. -/
theorem exists_fails_of_none {slot : Slot} {literal : List Char} (hj : joker ∉ literal)
    (h : slot.type.reader.read? rest = none) :
    ∃ outcome, Fails joker (slot :: slots) (literal ++ joker :: template) (literal ++ rest)
      outcome := by
  have hm : ∀ after, matchLiterals joker (literal ++ joker :: template ++ after)
      (literal ++ rest) = .ok (template ++ after, rest) := by
    intro after
    rw [List.append_assoc]
    exact matchLiterals_gap hj _ _
  by_cases hrest : rest = []
  · subst hrest
    have ht : slot.isTail = false := slot.type.lawful_reader.takesRest_eq_false h
    refine ⟨.inputExhausted, by decide, fun index more after => ?_⟩
    rw [List.cons_append, run_cons_of_exhausted (hm after) ht]
  · refine ⟨.unreadableValue, by decide, fun index more after => ?_⟩
    rw [List.cons_append, run_cons_of_unreadable (hm after) hrest h]

/-- **The beginning of a template passes or fails, whatever follows it.** -/
theorem passes_or_fails (hc : template.count joker = slots.length) (input : Cursor) :
    (∃ pieces last rest, Passes joker slots template input pieces last rest) ∨
      ∃ outcome, Fails joker slots template input outcome := by
  -- a value that is read moves the slots and the template on by one joker
  induction slots generalizing template input with
  | nil =>
    have hj : joker ∉ template := List.count_eq_zero.1 hc
    by_cases hp : template <+: input
    · obtain ⟨rest, rfl⟩ := hp
      exact .inl ⟨[], template, rest, rfl, hj, walk_nil_iff.2 ⟨rfl, rfl⟩⟩
    · have hfails := exists_fails_of_not_isPrefix hj hp [] []
      rw [List.append_nil] at hfails
      exact .inr hfails
  | cons slot slots ih =>
    have hmem : joker ∈ template := List.count_pos_iff.1 (by rw [hc]; exact Nat.succ_pos _)
    obtain ⟨literal, template, rfl, hj⟩ := List.eq_append_cons_of_mem hmem
    rw [List.count_append, List.count_eq_zero.2 hj, List.count_cons_self, Nat.zero_add,
      List.length_cons, Nat.succ_inj] at hc
    by_cases hp : literal <+: input
    · obtain ⟨rest, rfl⟩ := hp
      cases hr : slot.type.reader.read? rest with
      | none => exact .inr (exists_fails_of_none hj hr)
      | some r =>
        obtain ⟨word, behind, rfl, hp⟩ := Piece.exists_reads hr literal
        rcases ih hc behind with ⟨pieces, last, rest, h⟩ | ⟨outcome, h⟩
        · exact .inl ⟨_, last, rest, h.cons hp rfl hj⟩
        · exact .inr ⟨outcome, h.cons hp rfl hj⟩
    · exact .inr (exists_fails_of_not_isPrefix hj hp _ _)

theorem run_cons_of_isTail {slot : Slot}
    (h : matchLiterals joker template input = .ok (after, rest)) (ht : slot.isTail = true)
    (index : Nat) :
    run joker index (slot :: slots) template input =
      let more := run joker (index + 1) slots after []
      ⟨more.outcome, (slot.fill rest).1 :: more.slots,
        .consumed index rest.length :: more.events⟩ := by
  have hnone : Cursor.advance rest rest.length = [] := List.drop_length
  simp [run, h, ht, (Slot.fill_of_isTail ht rest).2, hnone]

theorem run_rest {slot : Slot} (h : slot.isTail = true) (index : Nat) (rest : Cursor) :
    run joker index [slot] [joker] rest =
      ⟨.ok, [(slot.fill rest).1], [.consumed index rest.length]⟩ := by
  rw [run_cons_of_isTail (matchLiterals_joker [] rest) h]
  rfl

/-! ## Extractions -/

theorem extract_eq_run {text : String} {chars : List Char} (ht : text.toList = chars)
    (hc : chars.count joker = slots.length) (input : Cursor) :
    (extract ⟨text, joker⟩ input slots).outcome = (run joker 0 slots chars input).outcome ∧
      ((extract ⟨text, joker⟩ input slots).outcome = .ok →
        (extract ⟨text, joker⟩ input slots).slots = (run joker 0 slots chars input).slots) := by
  subst ht
  have heq : extract ⟨text, joker⟩ input slots =
      (run joker 0 slots text.toList input).settle ⟨text, joker⟩ := extract_of_count_eq hc
  rw [heq, outcome_settle]
  refine ⟨rfl, fun hok => ?_⟩
  rw [Report.settle, hok]
  rfl

theorem count_append_eq (hc : template.count joker = slots.length)
    (hmore : after.count joker = more.length) :
    (template ++ after).count joker = (slots ++ more).length := by
  rw [List.count_append, hc, hmore, List.length_append]

theorem Passes.extract_eq (h : Passes joker slots template input pieces last rest)
    {text : String} (ht : text.toList = template ++ after)
    (hc : template.count joker = slots.length) (hmore : after.count joker = more.length) :
    let whole := extract ⟨text, joker⟩ input (slots ++ more)
    let back := run joker 0 more after rest
    whole.outcome = back.outcome ∧
      (whole.outcome = .ok → whole.slots = pieces.map Piece.slot ++ back.slots) := by
  obtain ⟨hout, hslots⟩ := extract_eq_run ht (count_append_eq hc hmore) input
  obtain ⟨ho, hs⟩ := @run_index joker (0 + pieces.length) 0 more after rest
  rw [h.run_eq] at hout hslots
  exact ⟨hout.trans ho, fun hok => (hslots hok).trans (congrArg (_ ++ ·) hs)⟩

theorem Fails.outcome_extract (h : Fails joker slots template input outcome) {text : String}
    (ht : text.toList = template ++ after) (hc : template.count joker = slots.length)
    (hmore : after.count joker = more.length) :
    (extract ⟨text, joker⟩ input (slots ++ more)).outcome = outcome := by
  rw [(extract_eq_run ht (count_append_eq hc hmore) input).1, h.outcome_run]

/-- **The rest of a text is a continuation.** Of two templates put together, the first one with a
slot for the rest of the text in place of the second tells where the second begins. Where that
succeeds, the whole ends as the second template does on the rest, and on success the slots are
filled in the two halves. Where it fails, the whole fails in the same way. -/
theorem extract_append (joker : Char) (first second : String) (input : Cursor)
    (slots more : List Slot) (tail : Slot) (htail : tail.isTail = true)
    (hfirst : (Template.mk first joker).jokerCount = slots.length)
    (hsecond : (Template.mk second joker).jokerCount = more.length) :
    let front := extract ⟨first.push joker, joker⟩ input (slots ++ [tail])
    let whole := extract ⟨first ++ second, joker⟩ input (slots ++ more)
    (front.outcome = .ok → ∃ filled held rest, front.slots = filled ++ [held] ∧
      filled.length = slots.length ∧ held.rest? = some rest ∧
      let back := extract ⟨second, joker⟩ (Cursor.ofString rest) more
      whole.outcome = back.outcome ∧ (whole.outcome = .ok → whole.slots = filled ++ back.slots)) ∧
    (front.outcome ≠ .ok → whole.outcome = front.outcome) := by
  intro front whole
  have hjoker : [joker].count joker = [tail].length := List.count_singleton_self
  have hpush : (first.push joker).toList = first.toList ++ [joker] := String.toList_push joker
  have happ : (first ++ second).toList = first.toList ++ second.toList := String.toList_append
  rcases passes_or_fails hfirst input with ⟨pieces, last, rest, h⟩ | ⟨outcome, h⟩
  · obtain ⟨hfo, hfs⟩ := h.extract_eq hpush hfirst hjoker
    obtain ⟨hwo, hws⟩ := h.extract_eq happ hfirst hsecond
    rw [run_rest htail] at hfo hfs
    refine ⟨fun hok => ⟨pieces.map Piece.slot, (tail.fill rest).1, String.ofList rest, hfs hok, ?_,
      (Slot.fill_of_isTail htail rest).1, ?_⟩, fun hne => absurd hfo hne⟩
    · simpa using (congrArg List.length h.types_eq).symm
    · rw [Cursor.ofString, String.toList_ofList]
      obtain ⟨hbo, hbs⟩ := extract_eq_run rfl hsecond rest
      refine ⟨hwo.trans hbo.symm, fun hok => ?_⟩
      rw [hws hok, hbs (hbo.trans (hwo.symm.trans hok))]
  · have hf := h.outcome_extract hpush hfirst hjoker
    have hw := h.outcome_extract happ hfirst hsecond
    exact ⟨fun hok => absurd (hf.symm.trans hok) h.ne_ok, fun _ => hw.trans hf.symm⟩

/-- A template that is cut in the middle of a literal text, on an input that it takes and on one
that differs from it before the cut. -/
theorem extract_append_mid_literal :
    let slots : List Slot := [.empty (.unsigned 16)]
    let more : List Slot := [.empty .char, .empty (.dynamic .str)]
    let front (input : Cursor) := extract ⟨"a=$, b$", '$'⟩ input (slots ++ [.empty .tail])
    let whole (input : Cursor) := extract ⟨"a=$, b=$$", '$'⟩ input (slots ++ more)
    let back := extract ⟨"=$$", '$'⟩ "=x\"$\"".toList more
    let input := "a=12, b=x\"$\"".toList
    let other := "a=12; b=x\"$\"".toList
    (front input).outcome = .ok ∧ (whole input).outcome = back.outcome ∧ back.outcome = .ok ∧
      (whole input).slots = ⟨.unsigned 16, some 12⟩ :: back.slots ∧
      (front other).outcome ≠ .ok ∧ (whole other).outcome = .literalMismatch := by
  intro slots more front whole back input other
  have hcut (input : Cursor) := extract_append '$' "a=$, b" "=$$" input slots more (.empty .tail)
    rfl (by decide) (by decide)
  have hok : (front input).outcome = .ok := by decide +kernel
  have hback : back.outcome = .ok := by decide +kernel
  have hno : (front other).outcome = .literalMismatch := by decide +kernel
  have hheld : (front input).slots =
      [⟨.unsigned 16, some 12⟩] ++ [⟨.tail, some "=x\"$\""⟩] := by rfl
  obtain ⟨filled, held, rest, hslots, -, hrest, hout, hfull⟩ := (hcut input).1 hok
  obtain ⟨rfl, hlast⟩ := List.append_inj' (hslots.symm.trans hheld) rfl
  cases hlast
  cases hrest
  have hne : (front other).outcome ≠ .ok := by rw [hno]; decide
  exact ⟨hok, hout, hback, hfull (hout.trans hback), hne, ((hcut other).2 hne).trans hno⟩

end

end Extraction

end TypedExtraction
