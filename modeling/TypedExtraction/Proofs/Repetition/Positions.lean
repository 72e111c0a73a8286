import Mathlib.Data.List.Chain
import TypedExtraction.Proofs.Repetition.Sweep
import TypedExtraction.Repetition.Search

/-!
# The positions of a match

A match is made at the front of an input by going from position to position,
each time over the word of the member that comes first. `Positions` are those
that are reached up to the place where a `Stop` applies. There is one such row of
positions (`Positions.unique`, `exists_positions`), a sweep goes along it
(`Positions.sweep_eq`), and it tells all that there is to a match at the front
(`matchIn_anchored_positions`).
-/

namespace TypedExtraction.Repetition

open Text

section
variable {members : List Member} {max p q : Nat} {input : Cursor} {ps qs : List Nat}
  {stop stop' : Stop}

/-- A position lies behind another one by the word of the member that comes first there. -/
def Stride (members : List Member) (input : Cursor) (p q : Nat) : Prop :=
  p < q ∧ ∃ m word, Member.IsFirst members (input.drop p) m word ∧ q - p = word.length

/-- What it means to stop at position `p`, with `count` strides made. -/
def Stop.Applies (members : List Member) (max : Nat) (input : Cursor) (count p : Nat) :
    Stop → Prop
  | .atMax => count = max
  | .noMember => ∀ m ∈ members, ¬ m.Matches (input.drop p)
  | .emptyMember => count < max ∧ Member.IsFirst members (input.drop p) (.literal "") []

/-- Strides lead from position `p` through `ps`, no more of them than `max`, and `stop` applies
where they end. -/
structure Positions (members : List Member) (max : Nat) (input : Cursor) (p : Nat) (ps : List Nat)
    (stop : Stop) : Prop where
  strides : (p :: ps).IsChain (Stride members input)
  length_le : ps.length ≤ max
  applies : stop.Applies members max input ps.length (ps.getLastD p)

theorem stride_iff : Stride members input p q ↔
    ∃ n, Member.firstLength? members (input.drop p) = some (n + 1) ∧ q = p + (n + 1) := by
  constructor
  · rintro ⟨hlt, m, word, hfirst, hlen⟩
    have hq : q = p + (word.length - 1 + 1) := by omega
    refine ⟨word.length - 1, Member.firstLength?_eq_some_iff.2 ⟨m, word, hfirst, ?_⟩, hq⟩
    omega
  · rintro ⟨n, hn, rfl⟩
    obtain ⟨m, word, hfirst, hlen⟩ := Member.firstLength?_eq_some_iff.1 hn
    exact ⟨by omega, m, word, hfirst, by omega⟩

theorem positions_nil_iff :
    Positions members max input p [] stop ↔ stop.Applies members max input 0 p :=
  ⟨fun h => h.applies, fun h => ⟨List.isChain_singleton p, Nat.zero_le max, h⟩⟩

theorem positions_cons_iff : Positions members (max + 1) input p (q :: ps) stop ↔
    Stride members input p q ∧ Positions members max input q ps stop := by
  have happlies : ∀ last, stop.Applies members (max + 1) input (ps.length + 1) last ↔
      stop.Applies members max input ps.length last := by
    intro last
    cases stop with
    | atMax => exact Nat.succ_inj
    | noMember => exact Iff.rfl
    | emptyMember => exact and_congr_left' Nat.succ_lt_succ_iff
  constructor
  · intro h
    obtain ⟨hpq, hchain⟩ := List.isChain_cons_cons.1 h.strides
    have hstop := h.applies
    rw [List.getLastD_cons, List.length_cons, happlies] at hstop
    exact ⟨hpq, hchain, Nat.le_of_succ_le_succ h.length_le, hstop⟩
  · rintro ⟨hpq, h⟩
    refine ⟨List.isChain_cons_cons.2 ⟨hpq, h.strides⟩, Nat.succ_le_succ h.length_le, ?_⟩
    rw [List.getLastD_cons, List.length_cons, happlies]
    exact h.applies

theorem Positions.exists_of_cons (h : Positions members max input p (q :: ps) stop) :
    ∃ more, max = more + 1 ∧ Stride members input p q ∧ Positions members more input q ps stop := by
  cases max with
  | zero => exact absurd h.length_le (Nat.not_succ_le_zero _)
  | succ more => exact ⟨more, rfl, positions_cons_iff.1 h⟩

theorem Stride.eq_atMax (h : Stride members input p q) {count : Nat}
    (hstop : stop.Applies members max input count p) : stop = .atMax := by
  obtain ⟨n, hn, -⟩ := stride_iff.1 h
  cases stop with
  | atMax => rfl
  | noMember =>
    rw [Member.firstLength?_eq_none_iff.2 hstop] at hn
    cases hn
  | emptyMember =>
    rw [Member.firstLength?_eq_zero_iff.2 hstop.2] at hn
    cases hn

theorem Stride.unique {q' : Nat} (h : Stride members input p q) (h' : Stride members input p q') :
    q = q' := by
  obtain ⟨n, hn, rfl⟩ := stride_iff.1 h
  obtain ⟨n', hn', rfl⟩ := stride_iff.1 h'
  rw [hn] at hn'
  cases hn'
  rfl

/-- **There is one row of positions only.** -/
theorem Positions.unique (h : Positions members max input p ps stop)
    (h' : Positions members max input p qs stop') : ps = qs := by
  induction ps generalizing max p qs with
  | nil =>
    cases qs with
    | nil => rfl
    | cons q qs =>
      obtain ⟨max, rfl, hpq, -⟩ := h'.exists_of_cons
      have hstop := positions_nil_iff.1 h
      rw [hpq.eq_atMax hstop] at hstop
      cases hstop
  | cons q ps ih =>
    obtain ⟨max, rfl, hpq, h⟩ := h.exists_of_cons
    cases qs with
    | nil =>
      have hstop := positions_nil_iff.1 h'
      rw [hpq.eq_atMax hstop] at hstop
      cases hstop
    | cons q' qs =>
      obtain ⟨hpq', h'⟩ := positions_cons_iff.1 h'
      obtain rfl := hpq.unique hpq'
      rw [ih h h']

theorem exists_positions (members : List Member) (max : Nat) (input : Cursor) (p : Nat) :
    ∃ ps stop, Positions members max input p ps stop := by
  induction max generalizing p with
  | zero => exact ⟨[], .atMax, positions_nil_iff.2 rfl⟩
  | succ max ih =>
    cases hn : Member.firstLength? members (input.drop p) with
    | none => exact ⟨[], .noMember, positions_nil_iff.2 (Member.firstLength?_eq_none_iff.1 hn)⟩
    | some n =>
      cases n with
      | zero =>
        have hempty := Member.firstLength?_eq_zero_iff.1 hn
        exact ⟨[], .emptyMember, positions_nil_iff.2 ⟨Nat.succ_pos max, hempty⟩⟩
      | succ n =>
        obtain ⟨ps, stop, h⟩ := ih (p + (n + 1))
        exact ⟨(p + (n + 1)) :: ps, stop, positions_cons_iff.2 ⟨stride_iff.2 ⟨n, hn, rfl⟩, h⟩⟩

theorem Positions.le_getLastD (h : Positions members max input p ps stop) : p ≤ ps.getLastD p := by
  induction ps generalizing max p with
  | nil => exact Nat.le_refl p
  | cons q ps ih =>
    obtain ⟨max, rfl, hpq, h⟩ := h.exists_of_cons
    rw [List.getLastD_cons]
    exact Nat.le_trans (Nat.le_of_lt hpq.1) (ih h)

theorem Positions.eq_nil_of_getLastD_eq (h : Positions members max input p ps stop)
    (hp : ps.getLastD p = p) : ps = [] := by
  cases ps with
  | nil => rfl
  | cons q ps =>
    obtain ⟨max, rfl, hpq, h⟩ := h.exists_of_cons
    have := h.le_getLastD
    rw [List.getLastD_cons] at hp
    have := hpq.1
    omega

theorem Stride.le_length (h : Stride members input p q) : q ≤ input.length := by
  obtain ⟨hlt, m, word, hfirst, hlen⟩ := h
  have := hfirst.isPrefix.length_le
  rw [List.length_drop] at this
  omega

theorem Positions.getLastD_le (h : Positions members max input p ps stop) (hp : p ≤ input.length) :
    ps.getLastD p ≤ input.length := by
  induction ps generalizing max p with
  | nil => exact hp
  | cons q ps ih =>
    obtain ⟨max, rfl, hpq, h⟩ := h.exists_of_cons
    rw [List.getLastD_cons]
    exact ih h hpq.le_length

/-- **A sweep goes along the positions.** It counts the strides, and the empty literal that stops it
once more. -/
theorem Positions.sweep_eq (h : Positions members max input p ps stop) :
    ∃ stop', sweep members max (input.drop p) =
        ⟨if stop = .emptyMember then ps.length + 1 else ps.length, ps.getLastD p - p, stop'⟩ ∧
      (stop' = .emptyMember ↔ stop = .emptyMember) := by
  -- at the maximum a sweep looks at no member, so it stops there even if no member matches
  induction ps generalizing max p with
  | nil =>
    have hstop := positions_nil_iff.1 h
    cases max with
    | zero =>
      have hne : stop ≠ .emptyMember := by
        rintro rfl
        exact absurd hstop.1 (Nat.lt_irrefl 0)
      refine ⟨.atMax, ?_, by simp [hne]⟩
      simp [sweep, hne]
    | succ max =>
      cases stop with
      | atMax => cases hstop
      | noMember =>
        refine ⟨.noMember, ?_, Iff.rfl⟩
        simp [sweep_of_none (Member.firstLength?_eq_none_iff.2 hstop)]
      | emptyMember =>
        refine ⟨.emptyMember, ?_, Iff.rfl⟩
        simp [sweep_of_empty (Member.firstLength?_eq_zero_iff.2 hstop.2)]
  | cons q ps ih =>
    obtain ⟨max, rfl, hpq, h⟩ := h.exists_of_cons
    have hle := h.le_getLastD
    obtain ⟨n, hn, rfl⟩ := stride_iff.1 hpq
    obtain ⟨stop', hsweep, hstop⟩ := ih h
    refine ⟨stop', ?_, hstop⟩
    simp only [sweep_of_stride hn, List.drop_drop, hsweep, Sweep.behind, List.getLastD_cons]
    congr 1
    · split <;> rfl
    · omega

end

/-! ## Matches at the front -/

variable {r : Repetition} {input : Cursor} {ps : List Nat} {stop : Stop}

/-- How often a member is repeated where `count` strides are made. -/
def Stop.repetitions (count min : Nat) : Stop → Nat
  | .emptyMember => Nat.max (count + 1) min
  | .atMax | .noMember => count

theorem Stop.repetitions_lt_iff {count min : Nat} :
    stop.repetitions count min < min ↔ stop ≠ .emptyMember ∧ count < min := by
  cases stop with
  | atMax | noMember => simp [repetitions]
  | emptyMember =>
    have hle : min ≤ Nat.max (count + 1) min := Nat.le_max_right _ _
    exact iff_of_false (Nat.not_lt.2 hle) fun h => h.1 rfl

/-- Where the bounds allow nothing, a sweep finds nothing either. -/
theorem matchAt?_eq_sweep (r : Repetition) (input : Cursor) :
    r.matchAt? input =
      if (sweep r.members r.max input).repetitions r.min < r.min then none
      else some ⟨0, String.ofList (input.take (sweep r.members r.max input).length),
        (sweep r.members r.max input).length, (sweep r.members r.max input).repetitions r.min⟩ := by
  rw [matchAt?]
  split
  · rename_i hzero
    rw [hzero.1, hzero.2, if_neg (Nat.not_lt_zero _)]
    rfl
  · rfl

theorem Positions.matchAt?_eq (h : Positions r.members r.max input 0 ps stop) :
    r.matchAt? input =
      if stop.repetitions ps.length r.min < r.min then none
      else some ⟨0, String.ofList (input.take (ps.getLastD 0)), ps.getLastD 0,
        stop.repetitions ps.length r.min⟩ := by
  obtain ⟨stop', hsweep, hstop⟩ := h.sweep_eq
  rw [List.drop_zero, Nat.sub_zero] at hsweep
  have hrep : (sweep r.members r.max input).repetitions r.min =
      stop.repetitions ps.length r.min := by
    rw [hsweep]
    cases stop <;> cases stop' <;> simp_all [Sweep.repetitions, Stop.repetitions]
  rw [matchAt?_eq_sweep, hrep, hsweep]

theorem Positions.isSome_matchAt?_iff (h : Positions r.members r.max input 0 ps stop) :
    (r.matchAt? input).isSome = true ↔ stop = .emptyMember ∨ r.min ≤ ps.length := by
  rw [h.matchAt?_eq]
  split
  · rename_i hlt
    obtain ⟨hne, hlt⟩ := Stop.repetitions_lt_iff.1 hlt
    refine iff_of_false Bool.false_ne_true ?_
    rintro (he | hle)
    · exact hne he
    · omega
  · rename_i hge
    rw [Stop.repetitions_lt_iff] at hge
    refine iff_of_true rfl ?_
    by_contra hno
    obtain ⟨hne, hlt⟩ := not_or.1 hno
    exact hge ⟨hne, Nat.not_le.1 hlt⟩

theorem Positions.matchIn_eq (h : Positions r.members r.max input 0 ps stop) :
    r.matchIn .anchored input =
      if stop.repetitions ps.length r.min < r.min then .error .noMatch
      else .ok ⟨0, String.ofList (input.take (ps.getLastD 0)), ps.getLastD 0,
        stop.repetitions ps.length r.min⟩ := by
  rw [matchIn, matchIn?, h.matchAt?_eq]
  by_cases hlt : stop.repetitions ps.length r.min < r.min
  · rw [if_pos hlt, if_pos hlt]
  · rw [if_neg hlt, if_neg hlt]

theorem Positions.repetitions_le (h : Positions r.members r.max input 0 ps stop) :
    stop.repetitions ps.length r.min ≤ r.max := by
  cases stop with
  | atMax | noMember => exact h.length_le
  | emptyMember => exact Nat.max_le.2 ⟨h.applies.1, r.min_le_max⟩

/-- **What a match at the front means.** There is one row of positions, from 0 on and each behind
the one before it, that leads from word to word of the members that come first, up to the maximum,
to a place where no member matches or to one where the empty literal comes first. Unless it is an
empty literal that stops, there have to be enough strides; the match ends where they end. -/
theorem matchIn_anchored_positions (r : Repetition) (input : Cursor) :
    ∃ ps : List Nat, (∃ stop, Positions r.members r.max input 0 ps stop) ∧
      (∀ qs stop, Positions r.members r.max input 0 qs stop → qs = ps) ∧
      (0 :: ps).Pairwise (· < ·) ∧
      (∀ stop, Positions r.members r.max input 0 ps stop →
        (r.matchIn .anchored input = .error .noMatch ↔
          (stop = .atMax ∨ stop = .noMember) ∧ ps.length < r.min) ∧
        (¬ ((stop = .atMax ∨ stop = .noMember) ∧ ps.length < r.min) →
          r.matchIn .anchored input = .ok ⟨0, String.ofList (input.take (ps.getLastD 0)),
            ps.getLastD 0, stop.repetitions ps.length r.min⟩)) ∧
      (∀ m, r.matchIn .anchored input = .ok m → r.min ≤ m.repetitions ∧ m.repetitions ≤ r.max) := by
  obtain ⟨ps, stop, h⟩ := exists_positions r.members r.max input 0
  refine ⟨ps, ⟨stop, h⟩, fun qs stop' h' => h'.unique h, ?_, fun stop' h' => ?_, fun m hm => ?_⟩
  · exact List.isChain_iff_pairwise.1 (h.strides.imp fun _ _ hpq => hpq.1)
  · have hstop : stop' = .atMax ∨ stop' = .noMember ↔ stop' ≠ .emptyMember := by
      cases stop' <;> simp
    rw [hstop, ← Stop.repetitions_lt_iff, h'.matchIn_eq]
    split
    · rename_i hlt
      exact ⟨iff_of_true rfl hlt, fun hge => absurd hlt hge⟩
    · rename_i hge
      exact ⟨iff_of_false (fun heq => nomatch heq) hge, fun _ => rfl⟩
  · rw [h.matchIn_eq] at hm
    split at hm
    · cases hm
    · rename_i hge
      cases hm
      exact ⟨Nat.not_lt.1 hge, h.repetitions_le⟩

end TypedExtraction.Repetition
