import TypedExtraction.Extraction.Session
import TypedExtraction.Proofs.Extraction.Slots

/-!
# What a session leaves in its slots

A step of a session changes the slots that it touches and no others
(`exists_slot_step`). A slot that was touched is full if the step succeeded on it,
whatever it held before, so at the end of a session only the last step that
touched a slot counts for it (`exists_slot_of_last`).
-/

namespace TypedExtraction.Session

open Text Extraction

namespace Step

def Touches : Step → Nat → Prop
  | .extract _ _ positions, i => i ∈ positions
  | .fill j _, i => j = i
  | .clear j, i => j = i

/-- An extraction names slots that there are. -/
def IsProper (count : Nat) : Step → Prop
  | .extract _ _ positions => ∀ i ∈ positions, i < count
  | .fill _ _ | .clear _ => True

/-- A step succeeds on the slot at a position: an extraction that ends well, or a value that can be
read. A slot that is cleared gets nothing. -/
def Succeeds (slots : List Slot) : Step → Nat → Prop
  | .extract template input positions, _ => (report slots template input positions).outcome = .ok
  | .fill _ input, i => ∃ s, slots[i]? = some s ∧ (s.type.reader.read? input).isSome = true
  | .clear _, _ => False

end Step

section
variable {slots changed : List Slot} {positions : List Nat} {i : Nat} {s : Slot} {st : Step}
  {steps : List Step}

/-! ## Slots by position -/

theorem map_type_select (slots : List Slot) (positions : List Nat) :
    (select slots positions).map Slot.type =
      positions.filterMap fun i => (slots.map Slot.type)[i]? := by
  simp only [select, List.map_filterMap, List.getElem?_map]

theorem length_restore (slots : List Slot) (positions : List Nat) (changed : List Slot) :
    (restore slots positions changed).length = slots.length := by
  fun_induction restore slots positions changed with
  | case1 slots i positions s changed ih => rw [ih, List.length_set]
  | case2 => rfl

theorem getElem?_restore_of_not_mem (h : i ∉ positions) :
    (restore slots positions changed)[i]? = slots[i]? := by
  fun_induction restore slots positions changed with
  | case1 slots j positions c changed ih =>
    obtain ⟨hj, hi⟩ := List.ne_and_not_mem_of_not_mem_cons h
    rw [ih hi, List.getElem?_set_ne hj.symm]
  | case2 => rfl

/-- Each position gets one of the slots that are put back, with the type that belongs there. -/
theorem exists_mem_restore {types : List ValueType} {type : ValueType}
    (hlt : ∀ j ∈ positions, j < types.length) (hlen : slots.length = types.length)
    (htypes : changed.map Slot.type = positions.filterMap fun j => types[j]?)
    (hi : i ∈ positions) (hs : types[i]? = some type) :
    ∃ c ∈ changed, (restore slots positions changed)[i]? = some c ∧ c.type = type := by
  induction positions generalizing slots changed with
  | nil => cases hi
  | cons j positions ih =>
    obtain ⟨hjlt, hlt⟩ := List.forall_mem_cons.1 hlt
    rw [List.filterMap_cons_some (List.getElem?_eq_getElem hjlt)] at htypes
    cases changed with
    | nil => cases htypes
    | cons c changed =>
      obtain ⟨hc, hmore⟩ := List.cons.inj htypes
      rw [restore]
      -- where a position comes twice, what is put there last stays
      by_cases hmem : i ∈ positions
      · obtain ⟨d, hd, hget, htype⟩ := ih hlt (List.length_set.trans hlen) hmore hmem
        exact ⟨d, List.mem_cons_of_mem c hd, hget, htype⟩
      · obtain rfl := (List.mem_cons.1 hi).resolve_right hmem
        rw [List.getElem?_eq_getElem hjlt] at hs
        refine ⟨c, List.mem_cons_self, ?_, hc.trans (Option.some.inj hs)⟩
        rw [getElem?_restore_of_not_mem hmem, List.getElem?_set_self (hlen ▸ hjlt)]

theorem exists_slot_modify {f : Slot → Slot} (j : Nat) (hs : slots[i]? = some s)
    (htype : (f s).type = s.type) :
    ∃ s', (slots.modify j f)[i]? = some s' ∧ s'.type = s.type ∧ (j ≠ i → s' = s) ∧
      (j = i → s' = f s) := by
  by_cases hj : j = i
  · subst hj
    exact ⟨f s, by simp [hs], htype, fun h => absurd rfl h, fun _ => rfl⟩
  · exact ⟨s, by simp [hj, hs], rfl, fun _ => rfl, fun h => absurd h hj⟩

/-! ## Steps -/

theorem length_step (slots : List Slot) (st : Step) : (step slots st).length = slots.length := by
  cases st with
  | extract template input positions => exact length_restore _ _ _
  | fill i input | clear i => exact List.length_modify _ _ _

/-- **What a step does to a slot.** It keeps the type. A slot that is not touched stays what it is;
one that is touched is full if the step succeeds on it, and holds no value of another kind. -/
theorem exists_slot_step (hst : st.IsProper slots.length) (hs : slots[i]? = some s) :
    ∃ s', (step slots st)[i]? = some s' ∧ s'.type = s.type ∧ (¬ st.Touches i → s' = s) ∧
      (st.Touches i → (s'.isFull = true ↔ st.Succeeds slots i) ∧ s'.HoldsOwnKind) := by
  cases st with
  | extract template input positions =>
    by_cases hi : i ∈ positions
    · have htypes := (map_type_extract template input (select slots positions)).trans
        (map_type_select slots positions)
      have hs' : (slots.map Slot.type)[i]? = some s.type := by rw [List.getElem?_map, hs]; rfl
      obtain ⟨c, hc, hget, htype⟩ := exists_mem_restore (by simpa [Step.IsProper] using hst)
        (List.length_map Slot.type).symm htypes hi hs'
      exact ⟨c, hget, htype, fun h => absurd hi h, fun _ =>
        ⟨isFull_of_mem_slots_extract hc, holdsOwnKind_of_mem_slots_extract hc⟩⟩
    · exact ⟨s, (getElem?_restore_of_not_mem hi).trans hs, rfl, fun _ => rfl,
        fun h => absurd h hi⟩
  | fill j input =>
    obtain ⟨s', hs', htype, hkeep, hset⟩ :=
      exists_slot_modify (f := fun s => (s.fill input).1) j hs (Slot.type_fill s input)
    refine ⟨s', hs', htype, hkeep, fun hj => ?_⟩
    rw [hset hj, Slot.isFull_fill]
    refine ⟨⟨fun h => ⟨s, hs, h⟩, ?_⟩, s.holdsOwnKind_fill input⟩
    rintro ⟨t, ht, h⟩
    rwa [Option.some.inj (hs.symm.trans ht)]
  | clear j =>
    obtain ⟨s', hs', htype, hkeep, hset⟩ := exists_slot_modify j hs (Slot.type_clear s)
    refine ⟨s', hs', htype, hkeep, fun hj => ?_⟩
    rw [hset hj]
    exact ⟨iff_of_false Bool.false_ne_true id, s.holdsOwnKind_clear⟩

/-! ## Sessions -/

theorem length_run (slots : List Slot) (steps : List Step) :
    (run slots steps).length = slots.length := by
  induction steps generalizing slots with
  | nil => rfl
  | cons st steps ih => exact (ih (step slots st)).trans (length_step slots st)

theorem run_append (slots : List Slot) (before after : List Step) :
    run slots (before ++ after) = run (run slots before) after :=
  List.foldl_append

theorem exists_slot_run (hst : ∀ st ∈ steps, st.IsProper slots.length) (hs : slots[i]? = some s) :
    ∃ s', (run slots steps)[i]? = some s' ∧ s'.type = s.type ∧
      ((∀ st ∈ steps, ¬ st.Touches i) → s' = s) ∧ (s.HoldsOwnKind → s'.HoldsOwnKind) := by
  induction steps generalizing slots s with
  | nil => exact ⟨s, hs, rfl, fun _ => rfl, id⟩
  | cons st steps ih =>
    obtain ⟨hhead, htail⟩ := List.forall_mem_cons.1 hst
    rw [← length_step slots st] at htail
    obtain ⟨t, ht, htype, hkeep, htouch⟩ := exists_slot_step hhead hs
    obtain ⟨s', hs', htype', hkeep', hkind⟩ := ih htail ht
    refine ⟨s', hs', htype'.trans htype, fun h => ?_, fun h => hkind ?_⟩
    · obtain ⟨hno, hmore⟩ := List.forall_mem_cons.1 h
      exact (hkeep' hmore).trans (hkeep hno)
    · by_cases hi : st.Touches i
      · exact (htouch hi).2
      · rw [hkeep hi]
        exact h

theorem getElem?_run_eq_none_iff : (run slots steps)[i]? = none ↔ slots[i]? = none := by
  rw [List.getElem?_eq_none_iff, List.getElem?_eq_none_iff, length_run]

theorem map_type_run (hst : ∀ st ∈ steps, st.IsProper slots.length) :
    (run slots steps).map Slot.type = slots.map Slot.type := by
  refine List.ext_getElem? fun i => ?_
  rw [List.getElem?_map, List.getElem?_map]
  cases hs : slots[i]? with
  | none => rw [getElem?_run_eq_none_iff.2 hs]
  | some s =>
    obtain ⟨s', hs', htype, -⟩ := exists_slot_run hst hs
    rw [hs', Option.map_some, Option.map_some, htype]

theorem getElem?_run_of_not_touches (hst : ∀ st ∈ steps, st.IsProper slots.length)
    (hi : ∀ st ∈ steps, ¬ st.Touches i) : (run slots steps)[i]? = slots[i]? := by
  cases hs : slots[i]? with
  | none => exact getElem?_run_eq_none_iff.2 hs
  | some s =>
    obtain ⟨s', hs', -, hkeep, -⟩ := exists_slot_run hst hs
    rw [hs', hkeep hi]

theorem holdsOwnKind_of_mem_run (hst : ∀ st ∈ steps, st.IsProper slots.length)
    (hkind : ∀ s ∈ slots, s.HoldsOwnKind) (hs : s ∈ run slots steps) : s.HoldsOwnKind := by
  obtain ⟨i, hi⟩ := List.mem_iff_getElem?.1 hs
  cases ht : slots[i]? with
  | none =>
    rw [getElem?_run_eq_none_iff.2 ht] at hi
    cases hi
  | some t =>
    obtain ⟨s', hs', -, -, hkept⟩ := exists_slot_run hst ht
    rw [Option.some.inj (hi.symm.trans hs')]
    exact hkept (hkind t (List.mem_of_getElem? ht))

/-- **The last step that touches a slot decides whether it is full.** -/
theorem exists_slot_of_last {before after : List Step}
    (hst : ∀ st' ∈ before ++ st :: after, st'.IsProper slots.length) (hi : i < slots.length)
    (htouch : st.Touches i) (hafter : ∀ later ∈ after, ¬ later.Touches i) :
    ∃ s, (run slots (before ++ st :: after))[i]? = some s ∧
      (s.isFull = true ↔ st.Succeeds (run slots before) i) ∧ s.HoldsOwnKind := by
  obtain ⟨-, hst⟩ := List.forall_mem_append.1 hst
  obtain ⟨hhead, htail⟩ := List.forall_mem_cons.1 hst
  rw [← length_run slots before] at hi hhead htail
  rw [← length_step (run slots before) st] at htail
  obtain ⟨s, hs, -, -, hfull⟩ := exists_slot_step hhead (List.getElem?_eq_getElem hi)
  have hkeep : (run slots (before ++ st :: after))[i]? = (step (run slots before) st)[i]? := by
    rw [run_append]
    exact getElem?_run_of_not_touches htail hafter
  exact ⟨s, hkeep.trans hs, hfull htouch⟩

/-- **All slots or none.** After an extraction the slots are full if it was a success and empty if
it was not, and nothing depends on what they held before. So in a session the last step that touches
a slot decides whether it is full, other slots keep what they hold, and where a kind was chosen for
a slot it never holds a value of another kind. -/
theorem all_slots_or_none :
    (∀ (template : Template) (input : Cursor) (slots : List Slot),
      (extract template input slots).slots.map Slot.type = slots.map Slot.type ∧
      (∀ s ∈ (extract template input slots).slots,
        (s.isFull = true ↔ (extract template input slots).outcome = .ok) ∧ s.HoldsOwnKind) ∧
      ∀ stale : List Slot, stale.map Slot.type = slots.map Slot.type →
        (extract template input stale).outcome = (extract template input slots).outcome ∧
        (extract template input stale).slots = (extract template input slots).slots) ∧
    ∀ (slots : List Slot) (steps : List Step), (∀ st ∈ steps, st.IsProper slots.length) →
      (run slots steps).map Slot.type = slots.map Slot.type ∧
      (∀ i, (∀ st ∈ steps, ¬ st.Touches i) → (run slots steps)[i]? = slots[i]?) ∧
      (∀ before st after i, steps = before ++ st :: after → i < slots.length → st.Touches i →
        (∀ later ∈ after, ¬ later.Touches i) →
        ∃ s, (run slots steps)[i]? = some s ∧
          (s.isFull = true ↔ st.Succeeds (run slots before) i) ∧ s.HoldsOwnKind) ∧
      ((∀ s ∈ slots, s.HoldsOwnKind) → ∀ s ∈ run slots steps, s.HoldsOwnKind) := by
  constructor
  · intro template input slots
    refine ⟨map_type_extract template input slots, fun s hs =>
      ⟨isFull_of_mem_slots_extract hs, holdsOwnKind_of_mem_slots_extract hs⟩, ?_⟩
    intro stale htypes
    rw [extract_congr template input htypes]
    exact ⟨rfl, rfl⟩
  · intro slots steps hst
    refine ⟨map_type_run hst, fun i hi => getElem?_run_of_not_touches hst hi, ?_,
      fun hkind s hs => holdsOwnKind_of_mem_run hst hkind hs⟩
    rintro before st after i rfl hi htouch hafter
    exact exists_slot_of_last hst hi htouch hafter

/-- A slot that holds a number of its own and one that gets a character lose both when the next
extraction fails, though it reads a value first; a slot that is filled later is full. -/
theorem all_slots_or_none_stale :
    let slots : List Slot := [⟨.unsigned 64, some 7⟩, .empty (.dynamic .char), .empty .tail]
    let first : Step := .extract ⟨"$,$", '$'⟩ "12,x".toList [0, 1]
    let second : Step := .extract ⟨"$;$", '$'⟩ "y;x".toList [1, 0]
    let third : Step := .fill 2 []
    (∀ st ∈ [first, second, third], st.IsProper slots.length) ∧
      (∃ s, (run slots [first])[0]? = some s ∧ s.isFull = true) ∧
      (∃ s, (run slots [first, second, third])[0]? = some s ∧ s.isFull = false) ∧
      (∃ s, (run slots [first, second, third])[2]? = some s ∧ s.isFull = true) := by
  intro slots first second third
  have hproper : ∀ st ∈ [first, second, third], st.IsProper slots.length := by
    simp [first, second, third, slots, Step.IsProper]
  refine ⟨hproper, ?_, ?_, ?_⟩
  · obtain ⟨-, -, hlast, -⟩ := all_slots_or_none.2 slots [first] (by
      simpa using hproper first List.mem_cons_self)
    have hok : (report slots ⟨"$,$", '$'⟩ "12,x".toList [0, 1]).outcome = .ok := by decide +kernel
    obtain ⟨s, hs, hfull, -⟩ := hlast [] first [] 0 rfl (by decide) List.mem_cons_self (by simp)
    exact ⟨s, hs, hfull.2 hok⟩
  · obtain ⟨-, -, hlast, -⟩ := all_slots_or_none.2 slots [first, second, third] hproper
    have hno : (report (run slots [first]) ⟨"$;$", '$'⟩ "y;x".toList [1, 0]).outcome ≠ .ok := by
      decide +kernel
    obtain ⟨s, hs, hfull, -⟩ := hlast [first] second [third] 0 rfl (by decide)
      (List.mem_cons_of_mem _ List.mem_cons_self) (by simp [third, Step.Touches])
    exact ⟨s, hs, Bool.eq_false_iff.2 (mt hfull.1 hno)⟩
  · obtain ⟨-, hkeep, -⟩ := all_slots_or_none.2 slots [first, second] fun st hst =>
      hproper st (List.mem_append_left [third] hst)
    have hempty : (run slots [first, second])[2]? = some (.empty .tail) :=
      hkeep 2 (by simp [first, second, Step.Touches])
    obtain ⟨-, -, hlast, -⟩ := all_slots_or_none.2 slots [first, second, third] hproper
    obtain ⟨s, hs, hfull, -⟩ := hlast [first, second] third [] 2 rfl (by decide) rfl (by simp)
    exact ⟨s, hs, hfull.2 ⟨_, hempty, rfl⟩⟩

end

end TypedExtraction.Session
