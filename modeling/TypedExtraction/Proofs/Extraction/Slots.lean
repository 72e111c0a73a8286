import TypedExtraction.Proofs.Extraction.Outcome

/-!
# What an extraction leaves in its slots

An extraction asks its slots for nothing but their types: whatever they held
before, the report is the same (`extract_congr`). On success every slot is full,
on any other outcome every slot is empty (`isFull_of_mem_slots_extract`), and
where a kind was chosen for a slot its value is of this kind
(`holdsOwnKind_of_mem_slots_extract`).
-/

namespace TypedExtraction

open Text Extraction

/-! ## Single slots -/

theorem Kind.kind_of_read? {kind : Kind} {input : Cursor} {r : Reading Value}
    (h : kind.reader.read? input = some r) : r.value.kind = kind := by
  cases kind <;> obtain ⟨_, -, rfl⟩ := Reader.read?_map_eq_some_iff.1 h <;> rfl

namespace Slot

/-- Where a kind was chosen for a slot, a value in it is of this kind. -/
def HoldsOwnKind (s : Slot) : Prop :=
  ∀ kind value, s = ⟨.dynamic kind, some value⟩ → value.kind = kind

theorem holdsOwnKind_clear (s : Slot) : s.clear.HoldsOwnKind := by
  intro kind value h
  have hfull : s.clear.isFull = true := by rw [h]; rfl
  cases hfull

theorem holdsOwnKind_fill (s : Slot) (input : Cursor) : (s.fill input).1.HoldsOwnKind := by
  intro kind value h
  obtain ⟨type, content⟩ := s
  rw [fill_eq] at h
  obtain rfl : type = .dynamic kind := congrArg Slot.type h
  obtain ⟨r, hr, rfl⟩ := Option.map_eq_some_iff.1 (eq_of_heq (Slot.mk.inj h).2)
  exact Kind.kind_of_read? hr

theorem isFull_fill (s : Slot) (input : Cursor) :
    (s.fill input).1.isFull = (s.type.reader.read? input).isSome := by
  rw [fill_eq, isFull, Option.isSome_map]

theorem map_type_clear (slots : List Slot) : (slots.map clear).map type = slots.map type := by
  simp

theorem map_clear (slots : List Slot) : slots.map clear = (slots.map type).map empty := by
  rw [List.map_map]
  rfl

end Slot

namespace Extraction

theorem Piece.Reads.holdsOwnKind {p : Piece} {rest : Cursor} (h : p.Reads rest) :
    p.slot.HoldsOwnKind := by
  intro kind value heq
  obtain ⟨literal, type, v, word⟩ := p
  cases heq
  exact Kind.kind_of_read? h.1

/-! ## Runs -/

/-- Two reports that differ at most in what the slots of a failed extraction hold. -/
structure Report.Agree (r r' : Report) : Prop where
  outcome_eq : r.outcome = r'.outcome
  types_eq : r.slots.map Slot.type = r'.slots.map Slot.type
  slots_eq : r.outcome = .ok → r.slots = r'.slots
  events_eq : r.events = r'.events

theorem Report.agree_of_ne_ok {outcome : Outcome} (h : outcome ≠ .ok) {slots slots' : List Slot}
    (htypes : slots.map Slot.type = slots'.map Slot.type) (events : List Event) :
    Agree ⟨outcome, slots, events⟩ ⟨outcome, slots', events⟩ :=
  ⟨rfl, htypes, fun hok => absurd hok h, rfl⟩

theorem Report.Agree.settle_eq {r r' : Report} (h : r.Agree r') (template : Template) :
    r.settle template = r'.settle template := by
  unfold settle
  rw [← h.outcome_eq, ← h.events_eq]
  by_cases hok : r.outcome = .ok
  · obtain ⟨o, slots, events⟩ := r
    obtain ⟨o', slots', events'⟩ := r'
    obtain rfl : o = o' := h.outcome_eq
    obtain rfl : slots = slots' := h.slots_eq hok
    obtain rfl : events = events' := h.events_eq
    rfl
  · have hno : ¬ r.outcome.isOk = true := by simpa [Outcome.isOk] using hok
    rw [if_neg hno, if_neg hno, Slot.map_clear, h.types_eq, ← Slot.map_clear]

section
variable {template : Template} {input : Cursor} {slots slots' : List Slot}

theorem map_type_run (joker : Char) (index : Nat) (slots : List Slot) (template : List Char)
    (input : Cursor) :
    (run joker index slots template input).slots.map Slot.type = slots.map Slot.type := by
  induction slots generalizing index template input with
  | nil =>
    rw [run]
    split <;> rfl
  | cons slot slots ih =>
    rw [run]
    split
    · rfl
    · split
      · rfl
      · dsimp only
        split
        · rfl
        · rw [List.map_cons, List.map_cons, ih, Slot.type_fill]

theorem ne_ok_of_matchLiterals {joker : Char} {template : List Char} {outcome : Outcome}
    (h : matchLiterals joker template input = .error outcome) : outcome ≠ .ok := by
  fun_induction matchLiterals joker template input with
  | case1 | case2 => cases h
  | case3 | case5 =>
    cases h
    rintro ⟨⟩
  | case4 _ _ _ _ ih => exact ih h

theorem agree_run_map_clear (joker : Char) (index : Nat) (slots : List Slot) (template : List Char)
    (input : Cursor) :
    (run joker index (slots.map Slot.clear) template input).Agree
      (run joker index slots template input) := by
  -- the slots in front of a failure are filled alike, those behind it keep what they held
  induction slots generalizing index template input with
  | nil => exact ⟨rfl, rfl, fun _ => rfl, rfl⟩
  | cons slot slots ih =>
    have hfill : ∀ input, slot.clear.fill input = slot.fill input := fun _ => rfl
    simp only [List.map_cons, run, Slot.isTail_clear, hfill]
    split
    · rename_i hm
      have hne := ne_ok_of_matchLiterals hm
      exact Report.agree_of_ne_ok hne (Slot.map_type_clear (slot :: slots)) _
    · split
      · exact Report.agree_of_ne_ok (by decide) (Slot.map_type_clear (slot :: slots)) _
      · split
        · exact Report.agree_of_ne_ok (by decide) (by simp) _
        · rename_i template' input' _ _ _
          have hmore := ih (index + 1) template' (input'.advance (slot.fill input').2)
          exact ⟨hmore.outcome_eq, congrArg (_ :: ·) hmore.types_eq,
            fun h => congrArg (_ :: ·) (hmore.slots_eq h), congrArg (_ :: ·) hmore.events_eq⟩

/-! ## Extractions -/

/-- **What the slots held before makes no difference.** -/
theorem extract_congr (template : Template) (input : Cursor)
    (h : slots.map Slot.type = slots'.map Slot.type) :
    extract template input slots = extract template input slots' := by
  have hclear : ∀ slots : List Slot,
      extract template input (slots.map Slot.clear) = extract template input slots := by
    intro slots
    have htypes := Slot.map_type_clear slots
    rw [extract, extract, List.length_map]
    refine Report.Agree.settle_eq ?_ template
    split
    · exact Report.agree_of_ne_ok (by decide) htypes _
    · split
      · exact Report.agree_of_ne_ok (by decide) htypes _
      · exact agree_run_map_clear _ _ _ _ _
  rw [← hclear slots, ← hclear slots', Slot.map_clear, Slot.map_clear, h]

theorem map_type_settle (r : Report) (template : Template) :
    (r.settle template).slots.map Slot.type = r.slots.map Slot.type := by
  unfold Report.settle
  split
  · rfl
  · exact Slot.map_type_clear r.slots

theorem map_type_extract (template : Template) (input : Cursor) (slots : List Slot) :
    (extract template input slots).slots.map Slot.type = slots.map Slot.type := by
  rw [extract, map_type_settle]
  split
  · rfl
  · split
    · rfl
    · exact map_type_run _ _ _ _ _

theorem slots_extract_of_ne_ok (h : (extract template input slots).outcome ≠ .ok) :
    (extract template input slots).slots = slots.map Slot.clear := by
  obtain ⟨r, hr⟩ : ∃ r : Report, extract template input slots = r.settle template := ⟨_, rfl⟩
  have htypes := map_type_extract template input slots
  rw [hr, map_type_settle] at htypes
  rw [hr, outcome_settle] at h
  have hno : ¬ r.outcome.isOk = true := by simpa [Outcome.isOk] using h
  rw [hr, Report.settle, if_neg hno, Slot.map_clear, Slot.map_clear, htypes]

/-- **All slots are full on success, and none otherwise.** -/
theorem isFull_of_mem_slots_extract {s : Slot} (hs : s ∈ (extract template input slots).slots) :
    s.isFull = true ↔ (extract template input slots).outcome = .ok := by
  by_cases hok : (extract template input slots).outcome = .ok
  · obtain ⟨pieces, last, h⟩ := exists_decomposes hok
    rw [h.extract_eq] at hs
    obtain ⟨p, -, rfl⟩ := List.mem_map.1 hs
    exact iff_of_true rfl hok
  · rw [slots_extract_of_ne_ok hok] at hs
    obtain ⟨t, -, rfl⟩ := List.mem_map.1 hs
    exact iff_of_false Bool.false_ne_true hok

theorem holdsOwnKind_of_mem_slots_extract {s : Slot}
    (hs : s ∈ (extract template input slots).slots) : s.HoldsOwnKind := by
  by_cases hok : (extract template input slots).outcome = .ok
  · obtain ⟨pieces, last, h⟩ := exists_decomposes hok
    rw [h.extract_eq] at hs
    obtain ⟨p, hp, rfl⟩ := List.mem_map.1 hs
    obtain ⟨before, after, rfl⟩ := List.append_of_mem hp
    exact (h.walk.reads before p after rfl).holdsOwnKind
  · rw [slots_extract_of_ne_ok hok] at hs
    obtain ⟨t, -, rfl⟩ := List.mem_map.1 hs
    exact t.holdsOwnKind_clear

end

end Extraction

end TypedExtraction
