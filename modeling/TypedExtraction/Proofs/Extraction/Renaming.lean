import Mathlib.Data.List.Basic
import TypedExtraction.Proofs.Extraction.Outcome

/-!
# Templates with another joker

Which character marks the gaps of a template is a matter of convention: the same
template with a joker that it does not contain (`Template.withJoker`) has as many
gaps (`jokerCount_withJoker`), and takes and refuses the same inputs with the same
values (`extract_withJoker`). What the input contains does not matter, as a run
looks for the joker in the template only.
-/

namespace TypedExtraction

open Text Extraction

namespace Template

/-- `c`, or `new` if `c` is `old`. -/
def exchange (old new c : Char) : Char := if c = old then new else c

/-- A template with another joker in each of its gaps. -/
def withJoker (t : Template) (joker : Char) : Template :=
  ⟨String.ofList (t.chars.map (exchange t.joker joker)), joker⟩

section
variable {old new c : Char} {chars : List Char}

theorem exchange_old (old new : Char) : exchange old new old = new := if_pos rfl

theorem exchange_of_ne (h : c ≠ old) : exchange old new c = c := if_neg h

/-- A joker that is new to a template stands only where the old one was. -/
theorem exchange_eq_iff (h : c ≠ new) : exchange old new c = new ↔ c = old := by
  unfold exchange
  split <;> simp_all

theorem count_map_exchange (h : new ∉ chars) :
    (chars.map (exchange old new)).count new = chars.count old := by
  rw [List.count_eq_countP, List.countP_map, List.count_eq_countP]
  refine List.countP_congr fun c hc => ?_
  have hne : c ≠ new := fun heq => h (heq ▸ hc)
  simp [exchange_eq_iff hne]

theorem chars_withJoker (t : Template) (joker : Char) :
    (t.withJoker joker).chars = t.chars.map (exchange t.joker joker) :=
  String.toList_ofList

theorem jokerCount_withJoker {t : Template} {joker : Char} (h : joker ∉ t.chars) :
    (t.withJoker joker).jokerCount = t.jokerCount := by
  rw [jokerCount, chars_withJoker]
  exact count_map_exchange h

end

end Template

namespace Extraction

open Template

section
variable {joker new : Char} {template template' : List Char} {input input' : Cursor}

theorem isSuffix_of_matchLiterals
    (h : matchLiterals joker template input = .ok (template', input')) :
    template' <:+ template := by
  fun_induction matchLiterals joker template input with
  | case1 input => cases h; exact List.suffix_refl _
  | case2 template input => cases h; exact List.suffix_cons _ _
  | case3 p template hp => cases h
  | case4 p template hp input ih => exact (ih h).trans (List.suffix_cons _ _)
  | case5 p template hp c input hc => cases h

theorem matchLiterals_exchange (h : new ∉ template) (input : Cursor) :
    matchLiterals new (template.map (exchange joker new)) input =
      (matchLiterals joker template input).map fun (template', input') =>
        (template'.map (exchange joker new), input') := by
  induction template generalizing input with
  | nil => rfl
  | cons c template ih =>
    obtain ⟨hc, hnew⟩ := List.ne_and_not_mem_of_not_mem_cons h
    rw [List.map_cons]
    by_cases hj : c = joker
    · rw [hj, exchange_old, matchLiterals_joker, matchLiterals_joker]
      rfl
    · rw [exchange_of_ne hj]
      cases input with
      | nil => rw [matchLiterals_cons_nil hc, matchLiterals_cons_nil (Ne.symm hj)]; rfl
      | cons a input =>
        rw [matchLiterals_cons_cons hc, matchLiterals_cons_cons (Ne.symm hj)]
        split
        · exact ih hnew input
        · rfl

/-- **A run does not see which character is the joker.** -/
theorem run_exchange (h : new ∉ template) (index : Nat) (slots : List Slot) (input : Cursor) :
    run new index slots (template.map (exchange joker new)) input =
      run joker index slots template input := by
  induction slots generalizing index template input with
  | nil =>
    rw [run, run, matchLiterals_exchange h]
    cases matchLiterals joker template input with
    | error outcome => rfl
    | ok left => rcases left with ⟨_, _ | ⟨_, _⟩⟩ <;> rfl
  | cons slot slots ih =>
    rw [run, run, matchLiterals_exchange h]
    cases hm : matchLiterals joker template input with
    | error outcome => rfl
    | ok left =>
      obtain ⟨template', input'⟩ := left
      have hnew : new ∉ template' := fun hmem => h ((isSuffix_of_matchLiterals hm).mem hmem)
      simp only [Except.map, ih hnew]

end

/-- What a failed extraction leaves in its slots has nothing to do with the template. -/
theorem slots_settle (r : Report) (template template' : Template) :
    (r.settle template).slots = (r.settle template').slots := by
  unfold Report.settle
  split <;> rfl

/-- **The joker of a template is a matter of convention.** With a joker that it does not contain in
the place of its own, a template gives the same outcome and the same values for each input,
whichever of the two the input contains. -/
theorem extract_withJoker (template : Template) (joker : Char) (h : joker ∉ template.chars)
    (input : Cursor) (slots : List Slot) :
    (extract (template.withJoker joker) input slots).outcome =
        (extract template input slots).outcome ∧
      (extract (template.withJoker joker) input slots).slots =
        (extract template input slots).slots := by
  have hrun : run (template.withJoker joker).joker 0 slots (template.withJoker joker).chars input =
      run template.joker 0 slots template.chars input := by
    rw [chars_withJoker]
    exact run_exchange h 0 slots input
  unfold extract
  simp only [jokerCount_withJoker h, hrun, outcome_settle, true_and]
  exact slots_settle _ _ _

/-- The joker `%` becomes `#`; the template has a `$` as a literal character, and the input has all
three. -/
theorem extract_withJoker_percent :
    let template : Template := ⟨"$%: %%", '%'⟩
    let slots : List Slot := [.empty (.unsigned 8), .empty .char, .empty .char]
    let input : Cursor := "$5: #%".toList
    '#' ∉ template.chars ∧ template.withJoker '#' = ⟨"$#: ##", '#'⟩ ∧
      (extract ⟨"$#: ##", '#'⟩ input slots).outcome = .ok ∧
      (extract ⟨"$#: ##", '#'⟩ input slots).slots =
        [⟨.unsigned 8, some 5⟩, ⟨.char, some '#'⟩, ⟨.char, some '%'⟩] := by
  intro template slots input
  have hnew : '#' ∉ template.chars := by decide
  have heq : template.withJoker '#' = ⟨"$#: ##", '#'⟩ := by decide
  obtain ⟨hout, hslots⟩ := extract_withJoker template '#' hnew input slots
  rw [heq] at hout hslots
  refine ⟨hnew, heq, hout.trans (by decide +kernel), hslots.trans ?_⟩
  simp only [template, slots, input]
  rfl

end Extraction

end TypedExtraction
