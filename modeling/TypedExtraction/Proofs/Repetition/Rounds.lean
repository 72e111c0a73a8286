import TypedExtraction.Proofs.Repetition.Anchored

/-!
# The rounds of a match

A match at the front can be made round by round. Between two rounds there is a
`Progress`, which counts the repetitions so far and keeps what is left of the
input. A round that goes over some characters leaves less of the input, and any
other one is the last, so the rounds come to an end whether there is a maximum or
not (`Sound`, `sound_of_rounds`). They end where the sweep ends (`exists_rounds`).
A maximum above the length of the input stops nothing and may as well be absent
(`rounds_eq_of_length_lt`).
-/

namespace TypedExtraction.Repetition

open Text Member

/-- How far a match has come between two rounds. -/
structure Progress where
  /-- The number of repetitions so far. -/
  count : Nat
  /-- What is left of the input. -/
  rest : Cursor
  /-- Whether a round has ended the match. -/
  isOver : Bool
  deriving DecidableEq, Repr

namespace Progress

/-- Nothing is repeated yet. -/
def start (input : Cursor) : Progress := ⟨0, input, false⟩

/-- One round, unless the match is over or the maximum is reached; there may be no maximum at all.
An empty literal ends the match, and is repeated until there is the minimum. -/
def round (members : List Member) (min : Nat) (max : Option Nat) (s : Progress) :
    Option Progress :=
  if s.isOver = false ∧ ∀ m ∈ max, s.count < m then
    match firstLength? members s.rest with
    | none => some ⟨s.count, s.rest, true⟩
    | some 0 => some ⟨Nat.max (s.count + 1) min, s.rest, true⟩
    | some (n + 1) => some ⟨s.count + 1, s.rest.advance (n + 1), false⟩
  else none

/-- A number of rounds, one after the other; `none` if there are fewer. -/
def rounds (members : List Member) (min : Nat) (max : Option Nat) : Nat → Progress → Option Progress
  | 0, s => some s
  | k + 1, s => (round members min max s).bind (rounds members min max k)

/-- There are `k` rounds and no more, and `s` is where they lead. -/
def EndsAfter (members : List Member) (min : Nat) (max : Option Nat) (input : Cursor) (k : Nat)
    (s : Progress) : Prop :=
  rounds members min max k (start input) = some s ∧ round members min max s = none

/-- The match of all characters that are not left, if there are enough repetitions. -/
def result (min : Nat) (input : Cursor) (s : Progress) : Except Failure Match :=
  let length := input.length - s.rest.length
  if s.count < min then .error .noMatch
  else .ok ⟨0, (input.limit length).toText, length, s.count⟩

section
variable {members : List Member} {min k j n : Nat} {max : Option Nat} {input : Cursor}
  {s t : Progress}

/-! ## Single rounds -/

theorem round_of_over (h : s.isOver = true) : round members min max s = none := by
  simp [round, h]

theorem round_of_max {m : Nat} (h : m ≤ s.count) : round members min (some m) s = none := by
  have : ¬ s.count < m := by omega
  simp [round, this]

theorem round_of_none (ho : s.isOver = false) (hm : ∀ m ∈ max, s.count < m)
    (h : firstLength? members s.rest = none) :
    round members min max s = some ⟨s.count, s.rest, true⟩ := by
  rw [round, if_pos ⟨ho, hm⟩, h]

theorem round_of_empty (ho : s.isOver = false) (hm : ∀ m ∈ max, s.count < m)
    (h : firstLength? members s.rest = some 0) :
    round members min max s = some ⟨Nat.max (s.count + 1) min, s.rest, true⟩ := by
  rw [round, if_pos ⟨ho, hm⟩, h]

theorem round_of_stride (ho : s.isOver = false) (hm : ∀ m ∈ max, s.count < m)
    (h : firstLength? members s.rest = some (n + 1)) :
    round members min max s = some ⟨s.count + 1, s.rest.drop (n + 1), false⟩ := by
  rw [round, if_pos ⟨ho, hm⟩, h]
  rfl

theorem round_cases (h : round members min max s = some t) :
    s.isOver = false ∧ (∀ m ∈ max, s.count < m) ∧
      (t = ⟨s.count, s.rest, true⟩ ∨ t = ⟨Nat.max (s.count + 1) min, s.rest, true⟩ ∨
        ∃ n, n + 1 ≤ s.rest.length ∧ t = ⟨s.count + 1, s.rest.drop (n + 1), false⟩) := by
  by_cases hgo : s.isOver = false ∧ ∀ m ∈ max, s.count < m
  · obtain ⟨ho, hm⟩ := hgo
    refine ⟨ho, hm, ?_⟩
    rcases hfirst : firstLength? members s.rest with _ | _ | n
    · rw [round_of_none ho hm hfirst] at h
      exact .inl (Option.some.inj h).symm
    · rw [round_of_empty ho hm hfirst] at h
      exact .inr (.inl (Option.some.inj h).symm)
    · rw [round_of_stride ho hm hfirst] at h
      exact .inr (.inr ⟨n, firstLength?_le_length hfirst, (Option.some.inj h).symm⟩)
  · rw [round, if_neg hgo] at h
    cases h

/-! ## What rounds preserve -/

/-- What holds after `k` rounds on an input. Each of them has counted, and has taken a character
from the input unless it was the last. -/
structure Sound (max : Option Nat) (input : Cursor) (k : Nat) (s : Progress) : Prop where
  rest_isSuffix : s.rest <:+ input
  count_le : ∀ m ∈ max, s.count ≤ m
  rounds_le : ∀ m ∈ max, k ≤ m
  count_eq : s.isOver = false → s.count = k
  add_length_le : k + s.rest.length ≤ input.length + s.isOver.toNat

theorem sound_start (max : Option Nat) (input : Cursor) : Sound max input 0 (start input) where
  rest_isSuffix := List.suffix_refl input
  count_le _ _ := Nat.zero_le _
  rounds_le _ _ := Nat.zero_le _
  count_eq _ := rfl
  add_length_le := by simp [start]

theorem Sound.of_round (h : Sound max input k s) (hmin : ∀ m ∈ max, min ≤ m)
    (ht : round members min max s = some t) : Sound max input (k + 1) t := by
  obtain ⟨ho, hm, ht⟩ := round_cases ht
  have hcount := h.count_eq ho
  have hlen := h.add_length_le
  have hrounds : ∀ m ∈ max, k + 1 ≤ m := fun m hmax => by have := hm m hmax; omega
  simp only [ho, Bool.toNat_false] at hlen
  rcases ht with rfl | rfl | ⟨n, hn, rfl⟩
  · refine ⟨h.rest_isSuffix, h.count_le, hrounds, fun hover => (nomatch hover), ?_⟩
    simp only [Bool.toNat_true]
    omega
  · refine ⟨h.rest_isSuffix, fun m hmax => ?_, hrounds, fun hover => (nomatch hover), ?_⟩
    · exact Nat.max_le.2 ⟨hm m hmax, hmin m hmax⟩
    · simp only [Bool.toNat_true]
      omega
  · refine ⟨(List.drop_suffix _ _).trans h.rest_isSuffix, hm, hrounds, fun _ => ?_, ?_⟩
    · simp only [hcount]
    · simp only [List.length_drop, Bool.toNat_false]
      omega

theorem Sound.of_rounds (h : Sound max input k s) (hmin : ∀ m ∈ max, min ≤ m)
    (ht : rounds members min max j s = some t) : Sound max input (k + j) t := by
  induction j generalizing k s with
  | zero =>
    cases ht
    exact h
  | succ j ih =>
    obtain ⟨u, hu, ht⟩ := Option.bind_eq_some_iff.1 ht
    rw [show k + (j + 1) = k + 1 + j by omega]
    exact ih (h.of_round hmin hu) ht

/-- **Rounds come to an end:** there are at most as many as the maximum, and at most one more than
the input has characters. -/
theorem sound_of_rounds (hmin : ∀ m ∈ max, min ≤ m)
    (h : rounds members min max k (start input) = some s) : Sound max input k s := by
  have := (sound_start max input).of_rounds hmin h
  rwa [Nat.zero_add] at this

theorem Sound.le_length_add_one (h : Sound max input k s) : k ≤ input.length + 1 := by
  have hlen := h.add_length_le
  have := Bool.toNat_le s.isOver
  omega

/-! ## Rounds and sweeps -/

/-- Where a sweep leads that begins with `count` repetitions already made. -/
def behindSweep (count min : Nat) (input : Cursor) (sw : Sweep) : Progress :=
  ⟨if sw.stop = .emptyMember then Nat.max (count + sw.count) min else count + sw.count,
    input.drop sw.length, sw.stop != .atMax⟩

theorem behindSweep_behind (count min : Nat) (input : Cursor) (n : Nat) (sw : Sweep) :
    behindSweep count min input (sw.behind n) =
      behindSweep (count + 1) min (input.drop n) sw := by
  have hcount : count + (sw.count + 1) = count + 1 + sw.count := by omega
  simp only [behindSweep, Sweep.behind, List.drop_drop, hcount]

/-- **The rounds end where the sweep ends.** -/
theorem exists_rounds (members : List Member) (min left : Nat) (input : Cursor) {count max : Nat}
    (hmax : count + left = max) :
    ∃ k, rounds members min (some max) k ⟨count, input, false⟩ =
        some (behindSweep count min input (sweep members left input)) ∧
      round members min (some max) (behindSweep count min input (sweep members left input)) =
        none := by
  have hgo : ∀ {count more : Nat}, count + (more + 1) = max → ∀ m ∈ some max, count < m := by
    intro count more h m hm
    obtain rfl := Option.mem_some_iff.1 hm
    omega
  induction left, input using sweep_induction members generalizing count with
  | atMax input => exact ⟨0, rfl, round_of_max (by simp [behindSweep, sweep]; omega)⟩
  | noMember left input hnone =>
    have hround : round members min (some max) ⟨count, input, false⟩ = some ⟨count, input, true⟩ :=
      round_of_none rfl (hgo hmax) hnone
    rw [sweep_of_none hnone]
    refine ⟨1, ?_, round_of_over rfl⟩
    rw [rounds, hround]
    rfl
  | emptyMember left input hempty =>
    have hround : round members min (some max) ⟨count, input, false⟩ =
        some ⟨Nat.max (count + 1) min, input, true⟩ := round_of_empty rfl (hgo hmax) hempty
    rw [sweep_of_empty hempty]
    refine ⟨1, ?_, round_of_over rfl⟩
    rw [rounds, hround]
    rfl
  | stride left input n hstride ih =>
    have hround : round members min (some max) ⟨count, input, false⟩ =
        some ⟨count + 1, input.drop (n + 1), false⟩ := round_of_stride rfl (hgo hmax) hstride
    obtain ⟨k, hk, hend⟩ := @ih (count + 1) (by omega)
    rw [sweep_of_stride hstride, behindSweep_behind]
    refine ⟨k + 1, ?_, hend⟩
    rw [rounds, hround]
    exact hk

theorem eq_of_rounds_end {k' : Nat} {s' u : Progress} (hk : rounds members min max k u = some s)
    (hs : round members min max s = none) (hk' : rounds members min max k' u = some s')
    (hs' : round members min max s' = none) : k = k' ∧ s = s' := by
  -- neither row of rounds can go on where the other one ends
  induction k generalizing k' u with
  | zero =>
    cases hk
    cases k' with
    | zero => exact ⟨rfl, Option.some.inj hk'⟩
    | succ k' =>
      rw [rounds, hs] at hk'
      cases hk'
  | succ k ih =>
    obtain ⟨v, hv, hk⟩ := Option.bind_eq_some_iff.1 hk
    cases k' with
    | zero =>
      cases hk'
      rw [hs'] at hv
      cases hv
    | succ k' =>
      rw [rounds, hv] at hk'
      obtain ⟨rfl, rfl⟩ := ih hk hk'
      exact ⟨rfl, rfl⟩

theorem EndsAfter.unique {k' : Nat} {s' : Progress} (h : EndsAfter members min max input k s)
    (h' : EndsAfter members min max input k' s') : k = k' ∧ s = s' :=
  eq_of_rounds_end h.1 h.2 h'.1 h'.2

theorem result_behindSweep (r : Repetition) (input : Cursor) :
    (behindSweep 0 r.min input (sweep r.members r.max input)).result r.min input =
      r.matchIn .anchored input := by
  have hle := length_sweep_le r.members r.max input
  have hlen : input.length - (input.length - (sweep r.members r.max input).length) =
      (sweep r.members r.max input).length := by omega
  have hcount : (behindSweep 0 r.min input (sweep r.members r.max input)).count =
      (sweep r.members r.max input).repetitions r.min := by
    cases hstop : (sweep r.members r.max input).stop <;>
      simp [behindSweep, Sweep.repetitions, hstop]
  rw [result, hcount, matchIn, matchIn?, matchAt?_eq_sweep]
  simp only [behindSweep, List.length_drop, hlen]
  split <;> rfl

theorem exists_endsAfter (r : Repetition) (input : Cursor) :
    ∃ k s, EndsAfter r.members r.min (some r.max) input k s ∧
      r.matchIn .anchored input = s.result r.min input := by
  obtain ⟨k, hk, hend⟩ := exists_rounds r.members r.min r.max input (Nat.zero_add r.max)
  exact ⟨k, _, ⟨hk, hend⟩, (result_behindSweep r input).symm⟩

/-! ## Maxima that stop nothing -/

theorem Sound.round_eq (h : Sound none input k s) {m : Nat} (hm : input.length < m) :
    round members min (some m) s = round members min none s := by
  cases hover : s.isOver with
  | true => rw [round_of_over hover, round_of_over hover]
  | false =>
    -- as long as no round was the last, each of them has taken a character
    have hcount := h.count_eq hover
    have hlen := h.add_length_le
    simp only [hover, Bool.toNat_false] at hlen
    have hlt : s.count < m := by omega
    simp [round, hlt]

/-- **A maximum above the length of the input may as well be absent.** -/
theorem rounds_eq_of_length_lt {m : Nat} (hm : input.length < m) (members : List Member)
    (min k : Nat) :
    rounds members min (some m) k (start input) = rounds members min none k (start input) := by
  have hrun : ∀ {i s}, Sound none input i s →
      rounds members min (some m) k s = rounds members min none k s := by
    induction k with
    | zero => exact fun _ => rfl
    | succ k ih =>
      intro i s h
      rw [rounds, rounds, h.round_eq hm]
      cases hround : round members min none s with
      | none => rfl
      | some t => exact ih (h.of_round (fun _ hmem => nomatch hmem) hround)
  exact hrun (sound_start none input)

theorem endsAfter_none_iff {m : Nat} (hm : input.length < m) :
    EndsAfter members min none input k s ↔ EndsAfter members min (some m) input k s := by
  unfold EndsAfter
  rw [rounds_eq_of_length_lt hm]
  refine and_congr_right fun hk => ?_
  have hsound : Sound none input k s := sound_of_rounds (fun _ hmem => nomatch hmem) hk
  rw [hsound.round_eq hm]

end

end Progress

/-! ## The rounds of a repetition -/

open Progress

/-- **A match is made in a bounded number of rounds.** There are at most as many rounds as the
maximum, and at most one more than the input has characters. In none of them is more counted than
the maximum, nor is anything left but an end of the input. The last round leads to the match. Two
maxima above the length of the input give the same match, and the same as if there were no maximum,
round by round. -/
theorem matchIn_rounds (r : Repetition) (input : Cursor) :
    (∀ k s, rounds r.members r.min (some r.max) k (start input) = some s →
      k ≤ Nat.min r.max (input.length + 1) ∧ s.count ≤ r.max ∧ s.rest <:+ input) ∧
    (∃ k s, EndsAfter r.members r.min (some r.max) input k s ∧
      r.matchIn .anchored input = s.result r.min input) ∧
    (input.length + 1 ≤ r.max →
      (∀ k, rounds r.members r.min (some r.max) k (start input) =
        rounds r.members r.min none k (start input)) ∧
      (∃ k s, EndsAfter r.members r.min none input k s ∧
        r.matchIn .anchored input = s.result r.min input) ∧
      ∀ r' : Repetition, r'.members = r.members → r'.min = r.min → input.length + 1 ≤ r'.max →
        r'.matchIn .anchored input = r.matchIn .anchored input) := by
  have hmin : ∀ m ∈ some r.max, r.min ≤ m := fun m hm =>
    Option.mem_some_iff.1 hm ▸ r.min_le_max
  obtain ⟨k, s, hends, hmatch⟩ := exists_endsAfter r input
  refine ⟨fun k s hk => ?_, ⟨k, s, hends, hmatch⟩, fun hlt => ?_⟩
  · have hsound := sound_of_rounds hmin hk
    exact ⟨Nat.le_min.2 ⟨hsound.rounds_le _ rfl, hsound.le_length_add_one⟩,
      hsound.count_le _ rfl, hsound.rest_isSuffix⟩
  · have hnone := (endsAfter_none_iff hlt).2 hends
    refine ⟨rounds_eq_of_length_lt hlt r.members r.min, ⟨k, s, hnone, hmatch⟩, ?_⟩
    intro r' hmembers hmin' hlt'
    obtain ⟨k', s', hends', hmatch'⟩ := exists_endsAfter r' input
    rw [hmembers, hmin'] at hends'
    obtain ⟨-, rfl⟩ := hnone.unique ((endsAfter_none_iff hlt').2 hends')
    rw [hmatch, hmatch', hmin']

/-- The empty literal comes last, so it stops in the third round, and it is repeated up to the
minimum. -/
theorem matchIn_rounds_empty_literal :
    let r : Repetition := ⟨[.literal "ab", .literal ""], 7, unbounded, by decide, by decide⟩
    let r' : Repetition := ⟨[.literal "ab", .literal ""], 7, 9, by decide, by decide⟩
    let input : Cursor := "abab!".toList
    rounds r.members r.min (some r.max) 3 (start input) = some ⟨7, ['!'], true⟩ ∧
      3 ≤ Nat.min r.max (input.length + 1) ∧ r'.matchIn .anchored input = .ok ⟨0, "abab", 4, 7⟩ ∧
      r'.matchIn .anchored input = r.matchIn .anchored input := by
  intro r r' input
  have h : rounds r.members r.min (some r.max) 3 (start input) = some ⟨7, ['!'], true⟩ := by
    decide +kernel
  obtain ⟨hbound, -, hmax⟩ := matchIn_rounds r input
  exact ⟨h, (hbound 3 _ h).1, by decide +kernel, (hmax (by decide)).2.2 r' rfl rfl (by decide)⟩

end TypedExtraction.Repetition
