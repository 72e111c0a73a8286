import TypedExtraction.Proofs.Extraction.Continuation

/-!
# What may follow a slot for the rest of a text

Behind a slot that takes the rest of a text nothing is left of the input, so the
outcome is told by what is left of the template and by the slots that are still
to be filled. A further slot for the rest takes the empty text. Any other slot
needs a value that is not there, and so does a literal character; the one that
comes first decides (`endsExhausted_run`, `extract_behind_rest`).
-/

namespace TypedExtraction.Extraction

open Text

/-- Nothing is asked of the input: the template has only jokers, and each slot takes the rest. -/
def AsksNothing (joker : Char) (slots : List Slot) (template : List Char) : Prop :=
  (∀ c ∈ template, c = joker) ∧ ∀ s ∈ slots, s.isTail = true

/-- A slot that needs a value has its joker before any literal character. -/
def AsksValueFirst (joker : Char) (slots : List Slot) (template : List Char) : Prop :=
  ∃ before slot after, slots = before ++ slot :: after ∧ slot.isTail = false ∧
    List.replicate (before.length + 1) joker <+: template

section
variable {joker c : Char} {slot : Slot} {slots : List Slot} {template : List Char}

/-! ## What is asked first -/

theorem asksNothing_nil (joker : Char) : AsksNothing joker [] [] :=
  ⟨List.forall_mem_nil _, List.forall_mem_nil _⟩

theorem asksNothing_cons_iff : AsksNothing joker (slot :: slots) (joker :: template) ↔
    slot.isTail = true ∧ AsksNothing joker slots template := by
  simp only [AsksNothing, List.forall_mem_cons, true_and]
  exact and_left_comm

theorem not_asksNothing_of_ne (h : joker ≠ c) (slots : List Slot) (template : List Char) :
    ¬ AsksNothing joker slots (c :: template) :=
  fun hasks => h (hasks.1 c List.mem_cons_self).symm

theorem not_asksValueFirst_nil (joker : Char) (template : List Char) :
    ¬ AsksValueFirst joker [] template := by
  rintro ⟨before, slot, after, hs, -⟩
  simp at hs

theorem asksValueFirst_cons_iff : AsksValueFirst joker (slot :: slots) (joker :: template) ↔
    slot.isTail = false ∨ AsksValueFirst joker slots template := by
  constructor
  · rintro ⟨before, s, after, hs, ht, hp⟩
    cases before with
    | nil =>
      obtain ⟨rfl, -⟩ := List.cons.inj hs
      exact .inl ht
    | cons b before =>
      obtain ⟨-, rfl⟩ := List.cons.inj hs
      exact .inr ⟨before, s, after, rfl, ht, (List.cons_prefix_cons.1 hp).2⟩
  · rintro (ht | ⟨before, s, after, rfl, ht, hp⟩)
    · exact ⟨[], slot, slots, rfl, ht, by simp⟩
    · exact ⟨slot :: before, s, after, rfl, ht, List.cons_prefix_cons.2 ⟨rfl, hp⟩⟩

theorem not_asksValueFirst_of_ne (h : joker ≠ c) (slots : List Slot) (template : List Char) :
    ¬ AsksValueFirst joker slots (c :: template) := by
  rintro ⟨before, slot, after, -, -, hp⟩
  rw [List.replicate_succ, List.cons_prefix_cons] at hp
  exact h hp.1

/-! ## Runs on an exhausted input -/

/-- How a run ends that has nothing left of the input. -/
structure EndsExhausted (joker : Char) (slots : List Slot) (template : List Char) (r : Report) :
    Prop where
  ok : r.outcome = .ok ↔ AsksNothing joker slots template
  inputExhausted : r.outcome = .inputExhausted ↔ AsksValueFirst joker slots template
  templateRemains : r.outcome = .templateRemains ↔
    ¬ AsksNothing joker slots template ∧ ¬ AsksValueFirst joker slots template
  rest_eq : r.outcome = .ok → ∀ s ∈ r.slots, s.rest? = some ""

theorem endsExhausted_of_ne (h : joker ≠ c) (slots : List Slot) (template : List Char)
    (index : Nat) :
    EndsExhausted joker slots (c :: template) (run joker index slots (c :: template) []) := by
  have hnothing := not_asksNothing_of_ne h slots template
  have hvalue := not_asksValueFirst_of_ne h slots template
  rw [run_of_error (matchLiterals_cons_nil h template)]
  constructor <;> simp [hnothing, hvalue]

theorem endsExhausted_of_value (ht : slot.isTail = false) (slots : List Slot)
    (template : List Char) (index : Nat) :
    EndsExhausted joker (slot :: slots) (joker :: template)
      (run joker index (slot :: slots) (joker :: template) []) := by
  rw [run_cons_of_exhausted (matchLiterals_joker template []) ht]
  constructor <;> simp [asksNothing_cons_iff, asksValueFirst_cons_iff, ht]

theorem EndsExhausted.cons (ht : slot.isTail = true) {index : Nat}
    (h : EndsExhausted joker slots template (run joker (index + 1) slots template [])) :
    EndsExhausted joker (slot :: slots) (joker :: template)
      (run joker index (slot :: slots) (joker :: template) []) := by
  rw [run_cons_of_isTail (matchLiterals_joker template []) ht]
  constructor
  · simp [asksNothing_cons_iff, ht, h.ok]
  · simp [asksValueFirst_cons_iff, ht, h.inputExhausted]
  · simp [asksNothing_cons_iff, asksValueFirst_cons_iff, ht, h.templateRemains]
  · intro hok
    exact List.forall_mem_cons.2 ⟨(Slot.fill_of_isTail ht []).1, h.rest_eq hok⟩

/-- **Where nothing is left of the input, what is asked first decides.** -/
theorem endsExhausted_run (hc : template.count joker = slots.length) (index : Nat) :
    EndsExhausted joker slots template (run joker index slots template []) := by
  induction template generalizing slots index with
  | nil =>
    obtain rfl := List.length_eq_zero_iff.1 hc.symm
    have hnothing := asksNothing_nil joker
    have hvalue := not_asksValueFirst_nil joker []
    constructor <;> simp [run, matchLiterals, hnothing, hvalue]
  | cons c template ih =>
    by_cases hj : joker = c
    · subst hj
      cases slots with
      | nil => simp at hc
      | cons slot slots =>
        cases ht : slot.isTail with
        | false => exact endsExhausted_of_value ht slots template index
        | true =>
          have hcount : template.count joker = slots.length := by simpa using hc
          exact (ih hcount (index + 1)).cons ht
    · exact endsExhausted_of_ne hj slots template index

end

/-! ## Behind a slot for the rest -/

/-- **What follows a slot for the rest of a text decides alone.** Where the slots in front of it are
filled and the literal text in front of its joker is met, the extraction succeeds if nothing more is
asked, and then the slot has all that was left and each slot behind it the empty text. It fails for
want of input if a slot that needs a value comes before any literal character, and otherwise on the
literal character. -/
theorem extract_behind_rest (template : Template) (input rest : Cursor) (slots later : List Slot)
    (tail : Slot) (first literal after : List Char) (pieces : List Piece)
    (hchars : template.chars = first ++ template.joker :: after)
    (hcount : template.jokerCount = (slots ++ tail :: later).length)
    (hpasses : Passes template.joker slots first input pieces literal rest)
    (htail : tail.isTail = true) :
    let report := extract template input (slots ++ tail :: later)
    (report.outcome = .ok ↔
      (∀ c ∈ after, c = template.joker) ∧ ∀ s ∈ later, s.isTail = true) ∧
    (report.outcome = .ok → ∃ held others,
      report.slots = pieces.map Piece.slot ++ held :: others ∧
      held.rest? = some (String.ofList rest) ∧ others.length = later.length ∧
      ∀ s ∈ others, s.rest? = some "") ∧
    (report.outcome = .inputExhausted ↔ AsksValueFirst template.joker later after) ∧
    (report.outcome = .templateRemains ↔
      report.outcome ≠ .ok ∧ report.outcome ≠ .inputExhausted) := by
  intro report
  have hafter : after.count template.joker = later.length := by
    have hfirst := hpasses.count_eq
    have hall : (first ++ template.joker :: after).count template.joker =
        (slots ++ tail :: later).length := hchars ▸ hcount
    simp only [List.count_append, List.count_cons_self, List.length_append, List.length_cons]
      at hall
    omega
  have hmore : (template.joker :: after).count template.joker = (tail :: later).length := by
    rw [List.count_cons_self, hafter, List.length_cons]
  obtain ⟨hout, hslots⟩ := hpasses.extract_eq hchars hpasses.count_eq hmore
  rw [run_cons_of_isTail (matchLiterals_joker after rest) htail 0] at hout hslots
  have hend := endsExhausted_run hafter 1
  have hreport : report.outcome = (run template.joker 1 later after []).outcome := hout
  rw [hreport]
  refine ⟨hend.ok, fun hok => ⟨_, _, hslots (hreport.trans hok), ?_, ?_, hend.rest_eq hok⟩,
    hend.inputExhausted, ?_⟩
  · exact (Slot.fill_of_isTail htail rest).1
  · have htypes := congrArg List.length (map_type_run template.joker 1 later after [])
    simpa using htypes
  · rw [hend.templateRemains, ← hend.ok, ← hend.inputExhausted]

/-- Behind a number and a slot for the rest: one more slot for the rest, a full stop that is not
there, and a character that would have to be there before the full stop. -/
theorem extract_behind_rest_numbered :
    let front : List Slot := [.empty (.unsigned 8)]
    let input : Cursor := "n=7, so on".toList
    let taken : List Piece := [⟨['n', '='], .unsigned 8, 7, ['7']⟩]
    let outcome (text : String) (later : List Slot) :=
      (extract ⟨text, '$'⟩ input (front ++ .empty .tail :: later)).outcome
    Passes '$' front "n=$, ".toList input taken [',', ' '] "so on".toList ∧
      outcome "n=$, $$" [.empty (.dynamic .tail)] = .ok ∧
      outcome "n=$, $$." [.empty .tail] = .templateRemains ∧
      outcome "n=$, $$." [.empty .char] = .inputExhausted := by
  intro front input taken outcome
  have hpasses : Passes '$' front "n=$, ".toList input taken [',', ' '] "so on".toList := by
    refine ⟨rfl, by decide, walk_cons_iff.2 ⟨_, _, rfl, rfl, by decide, ⟨?_, ?_⟩, ?_⟩⟩
    · decide
    · exact fun _ => List.cons_ne_nil _ _
    · exact walk_nil_iff.2 ⟨rfl, rfl⟩
  have hbehind (text : String) (later : List Slot) (after : List Char) hchars hcount :=
    extract_behind_rest ⟨text, '$'⟩ input "so on".toList front later (.empty .tail) "n=$, ".toList
      [',', ' '] after taken hchars hcount hpasses rfl
  obtain ⟨hok, -, -, -⟩ := hbehind "n=$, $$" [.empty (.dynamic .tail)] ['$'] rfl (by decide)
  obtain ⟨hok', -, hvalue', hremains⟩ :=
    hbehind "n=$, $$." [.empty .tail] ['$', '.'] rfl (by decide)
  obtain ⟨-, -, hvalue, -⟩ := hbehind "n=$, $$." [.empty .char] ['$', '.'] rfl (by decide)
  refine ⟨hpasses, hok.2 ⟨by simp, by simp; rfl⟩, hremains.2 ⟨?_, ?_⟩, hvalue.2 ?_⟩
  · simp [hok']
  · rw [Ne, hvalue', asksValueFirst_cons_iff]
    exact not_or.2 ⟨by decide, not_asksValueFirst_nil '$' ['.']⟩
  · exact asksValueFirst_cons_iff.2 (.inl rfl)

end TypedExtraction.Extraction
