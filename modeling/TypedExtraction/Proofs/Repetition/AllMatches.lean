import TypedExtraction.Proofs.Repetition.Leftmost

/-!
# All matches of an input

`Scans r input ms` says that `ms` are the matches that are found one behind the
other: each is the leftmost one in what is left of the input, and behind the
last one no match stands anywhere. There is such a row for every input
(`exists_scans`), and `findAll` goes through it (`Scans.exists_findAll_eq`).

A match tells its place only with respect to the end of the match before it.
`spans` adds these up to places of the whole input: the spans lie one behind the
other (`pairwise_precedes_spans`), and outside of them no match stands
(`Scans.not_standsAt_of_gap`).
-/

namespace TypedExtraction.Repetition

open Text

/-- The places of an input from `start` up to `stop`, without `stop`. -/
structure Span where
  start : Nat
  stop : Nat

namespace Span

def Contains (s : Span) (p : Nat) : Prop := s.start ≤ p ∧ p < s.stop

/-- `s` begins before `t`, and is over where `t` begins. -/
def Precedes (s t : Span) : Prop := s.start < t.start ∧ s.stop ≤ t.start

/-- `m` is made of the characters of a span, at least one. -/
structure IsOf (input : Cursor) (m : Match) (s : Span) : Prop where
  start_lt_stop : s.start < s.stop
  stop_le : s.stop ≤ input.length
  length_eq : m.length = s.stop - s.start
  text_eq : m.text.toList = (input.drop s.start).take (s.stop - s.start)

end Span

/-- Where matches stand that are found one behind the other, the first from `place` on. -/
def spans (place : Nat) : List Match → List Span
  | [] => []
  | m :: ms =>
    ⟨place + m.offset, place + (m.offset + m.length)⟩ :: spans (place + (m.offset + m.length)) ms

/-- `ms` are the matches that are found one behind the other, until there are no more. -/
inductive Scans (r : Repetition) : Cursor → List Match → Prop where
  | nil {input : Cursor} (h : ∀ o m, ¬ r.StandsAt input o m) : Scans r input []
  | cons {input : Cursor} {o : Nat} {m : Match} {ms : List Match} (h : r.IsLeftmost input o m)
      (more : Scans r (input.drop (o + m.length)) ms) : Scans r input ({ m with offset := o } :: ms)

section
variable {r : Repetition} {input rest : Cursor} {o p place : Nat} {m : Match} {ms : List Match}

/-! ## Single matches -/

theorem length_pos_of_not_isEmpty (h : m.isEmpty = false) : 0 < m.length := by
  simp only [Match.isEmpty, beq_eq_false_iff_ne] at h
  omega

theorem StandsAt.length_pos (h : r.StandsAt input o m) : 0 < m.length :=
  length_pos_of_not_isEmpty h.not_isEmpty

theorem StandsAt.le_length (h : r.StandsAt input o m) : o + m.length ≤ input.length := by
  have hlt := h.lt_length
  have hle := (front_of_matchAt? h.matchAt?_eq).2.1
  rw [List.length_drop] at hle
  omega

theorem matchIn_of_not_standsAt (h : ∀ m, ¬ r.StandsAt input p m) :
    r.matchIn .anchored (input.drop p) = .error .noMatch ∨
      ∃ m, r.matchIn .anchored (input.drop p) = .ok m ∧ m.isEmpty = true := by
  cases hm : r.matchAt? (input.drop p) with
  | none =>
    left
    simp only [matchIn, matchIn?, hm]
  | some m => exact .inr ⟨m, matchIn_eq_ok_iff.2 hm, isEmpty_of_not_standsAt h hm⟩

/-! ## Rows of matches -/

theorem exists_scans (r : Repetition) (input : Cursor) : ∃ ms, r.Scans input ms := by
  by_cases hex : ∃ o m, r.StandsAt input o m
  · obtain ⟨o, m, h⟩ := hex
    obtain ⟨o, m, hleft⟩ := exists_isLeftmost h
    -- behind a match that is not empty there is less of the input left
    have hpos := hleft.standsAt.length_pos
    have hle := hleft.standsAt.le_length
    obtain ⟨ms, hms⟩ := exists_scans r (input.drop (o + m.length))
    exact ⟨_, .cons hleft hms⟩
  · exact ⟨[], .nil fun o m h => hex ⟨o, m, h⟩⟩
termination_by input.length
decreasing_by
  rw [List.length_drop]
  omega

theorem Scans.length_le (h : r.Scans input ms) : ms.length ≤ input.length := by
  induction h with
  | nil => exact Nat.zero_le _
  | cons hleft _ ih =>
    have hpos := hleft.standsAt.length_pos
    have hle := hleft.standsAt.le_length
    rw [List.length_drop] at ih
    rw [List.length_cons]
    omega

theorem Scans.not_isEmpty (h : r.Scans input ms) : ∀ m ∈ ms, m.isEmpty = false := by
  induction h with
  | nil => simp
  | cons hleft _ ih => exact List.forall_mem_cons.2 ⟨hleft.standsAt.not_isEmpty, ih⟩

/-! ## Scanning on behind each match -/

theorem find?_eq_of_isLeftmost (h : r.IsLeftmost input o m) :
    r.find? input = some { m with offset := o } := by
  simpa using find?_of_isLeftmost h (Nat.zero_le o)

/-- **Scanning on goes through the row of matches,** and then gives one answer that is empty. -/
theorem Scans.exists_findAll_eq (h : r.Scans input ms) :
    ∃ last : Option Match, (∀ m ∈ last, m.isEmpty = true) ∧
      ∀ limit, r.findAll limit input = (ms.map some ++ [last]).take limit := by
  induction h with
  | @nil input h =>
    have hfind := find?_of_not_standsAt h
    have hempty : ∀ m, r.matchAt? input = some m → m.isEmpty = true := fun m hm =>
      isEmpty_of_not_standsAt (h 0) hm
    refine ⟨r.matchAt? input, hempty, fun limit => ?_⟩
    cases limit with
    | zero => rfl
    | succ limit =>
      rw [findAll, hfind]
      cases hm : r.matchAt? input with
      | none => simp
      | some m => simp [hempty m hm]
  | @cons input o m ms hleft _ ih =>
    obtain ⟨last, hlast, heq⟩ := ih
    refine ⟨last, hlast, fun limit => ?_⟩
    cases limit with
    | zero => rfl
    | succ limit =>
      have hne : Match.isEmpty { m with offset := o } = false := hleft.standsAt.not_isEmpty
      have hmore := heq limit
      rw [findAll, find?_eq_of_isLeftmost hleft]
      simp [hne, Cursor.advance, hmore]

/-! ## Places in the whole input -/

theorem le_start_of_mem_spans {s : Span} (hs : s ∈ spans place ms) : place ≤ s.start := by
  induction ms generalizing place with
  | nil => cases hs
  | cons m ms ih =>
    rcases List.mem_cons.1 hs with rfl | hs
    · exact Nat.le_add_right _ _
    · have := ih hs
      omega

theorem pairwise_precedes_spans (h : ∀ m ∈ ms, m.isEmpty = false) :
    (spans place ms).Pairwise Span.Precedes := by
  induction ms generalizing place with
  | nil => exact .nil
  | cons m ms ih =>
    obtain ⟨hm, hms⟩ := List.forall_mem_cons.1 h
    have hpos := length_pos_of_not_isEmpty hm
    refine .cons (fun t ht => ?_) (ih hms)
    have hle : place + (m.offset + m.length) ≤ t.start := le_start_of_mem_spans ht
    refine ⟨?_, hle⟩
    show place + m.offset < t.start
    omega

theorem Scans.forall₂_isOf (h : r.Scans rest ms) (hrest : rest = input.drop place) :
    List.Forall₂ (Span.IsOf input) ms (spans place ms) := by
  induction h generalizing place with
  | nil => exact .nil
  | @cons rest o m ms hleft _ ih =>
    subst hrest
    have hpos := hleft.standsAt.length_pos
    have hle := hleft.standsAt.le_length
    have htext := (front_of_matchAt? hleft.standsAt.matchAt?_eq).2.2
    rw [List.length_drop] at hle
    rw [List.drop_drop] at htext
    refine .cons ⟨?_, ?_, ?_, ?_⟩ (ih List.drop_drop)
    · show place + o < place + (o + m.length)
      omega
    · show place + (o + m.length) ≤ input.length
      omega
    · show m.length = place + (o + m.length) - (place + o)
      omega
    · show m.text.toList = (input.drop (place + o)).take (place + (o + m.length) - (place + o))
      rw [htext, show place + (o + m.length) - (place + o) = m.length by omega]

/-- **No match stands outside of the spans:** it would have been the leftmost one before. -/
theorem Scans.not_standsAt_of_gap (h : r.Scans rest ms) (hrest : rest = input.drop place)
    (hp : place ≤ p) (hgap : ∀ s ∈ spans place ms, ¬ s.Contains p) (m : Match) :
    ¬ r.StandsAt input p m := by
  induction h generalizing place with
  | nil h =>
    subst hrest
    intro hm
    exact h (p - place) m (hm.drop hp)
  | @cons rest o m' ms hleft _ ih =>
    subst hrest
    obtain ⟨hout, hmore⟩ := List.forall_mem_cons.1 hgap
    rcases Nat.lt_or_ge p (place + (o + m'.length)) with hlt | hge
    · -- not in front of the next match, as that is the leftmost, so within its span
      intro hm
      have hle := hleft.le (p - place) m (hm.drop hp)
      refine hout ⟨?_, hlt⟩
      show place + o ≤ p
      omega
    · exact ih List.drop_drop hge hmore

end

/-- **Scanning on behind each match loses nothing and finds nothing twice.** There are only so many
answers, however many are asked for: matches that are not empty, no more than the input has
characters, and then one answer that is empty. Each match is made of the characters of its span in
the whole input, the spans lie one behind the other, and from a place outside of all of them nothing
but an empty match can be made. -/
theorem findAll_spans (r : Repetition) (input : Cursor) :
    ∃ (ms : List Match) (last : Option Match),
      (∀ limit, r.findAll limit input = (ms.map some ++ [last]).take limit) ∧
      (∀ m ∈ ms, m.isEmpty = false) ∧ (∀ m ∈ last, m.isEmpty = true) ∧
      ms.length ≤ input.length ∧
      List.Forall₂ (Span.IsOf input) ms (spans 0 ms) ∧
      (spans 0 ms).Pairwise Span.Precedes ∧
      ∀ p, (∀ s ∈ spans 0 ms, ¬ s.Contains p) →
        r.matchIn .anchored (input.advance p) = .error .noMatch ∨
          ∃ m, r.matchIn .anchored (input.advance p) = .ok m ∧ m.isEmpty = true := by
  obtain ⟨ms, hms⟩ := exists_scans r input
  obtain ⟨last, hlast, hall⟩ := hms.exists_findAll_eq
  refine ⟨ms, last, hall, hms.not_isEmpty, hlast, hms.length_le, hms.forall₂_isOf rfl,
    pairwise_precedes_spans hms.not_isEmpty, fun p hgap => ?_⟩
  exact matchIn_of_not_standsAt (hms.not_standsAt_of_gap rfl (Nat.zero_le p) hgap)

/-- Up to three digits at a time: the last two matches lie side by side. -/
example : let r : Repetition := ⟨[.interval '0' '9'], 1, 3, by decide, by decide⟩
    let ms : List Match := [⟨1, "12", 2, 2⟩, ⟨1, "345", 3, 3⟩, ⟨0, "6", 1, 1⟩]
    r.findAll 9 "a12b3456".toList = ms.map some ++ [none] ∧
      spans 0 ms = [⟨1, 3⟩, ⟨4, 7⟩, ⟨7, 8⟩] := by
  exact ⟨by decide +kernel, rfl⟩

end TypedExtraction.Repetition
