import TypedExtraction.Proofs.Repetition.Words
import TypedExtraction.Repetition.Match

/-!
# Sweeps

A sweep is over at once, or it makes a stride and goes on behind it
(`sweep_induction`). It depends on the characters that it goes over, on the
members, and on how often they may be repeated, and on nothing else. So it stays
the same where the input is cut behind it (`sweep_take`), it goes at least as far
with further members and a larger maximum (`extends_sweep`), and it can be made in
two parts (`sweep_add`).
-/

namespace TypedExtraction.Repetition

open Text Member

section
variable {members : List Member} {max n : Nat} {input : Cursor}

/-! ## The steps of a sweep -/

/-- A sweep with a stride over `n` characters in front of it. -/
def Sweep.behind (n : Nat) (s : Sweep) : Sweep := ⟨s.count + 1, n + s.length, s.stop⟩

theorem sweep_of_none (h : firstLength? members input = none) (max : Nat) :
    sweep members (max + 1) input = ⟨0, 0, .noMember⟩ := by
  rw [sweep, h]

theorem sweep_of_empty (h : firstLength? members input = some 0) (max : Nat) :
    sweep members (max + 1) input = ⟨1, 0, .emptyMember⟩ := by
  rw [sweep, h]

theorem sweep_of_stride (h : firstLength? members input = some (n + 1)) (max : Nat) :
    sweep members (max + 1) input = (sweep members max (input.drop (n + 1))).behind (n + 1) := by
  rw [sweep, h]
  rfl

/-- What holds wherever a sweep stops, and in front of a stride if it holds behind it, holds
everywhere. -/
@[elab_as_elim]
theorem sweep_induction (members : List Member) {motive : Nat → Cursor → Prop}
    (atMax : ∀ input, motive 0 input)
    (noMember : ∀ max input, firstLength? members input = none → motive (max + 1) input)
    (emptyMember : ∀ max input, firstLength? members input = some 0 → motive (max + 1) input)
    (stride : ∀ max input n, firstLength? members input = some (n + 1) →
      motive max (input.drop (n + 1)) → motive (max + 1) input)
    (max : Nat) (input : Cursor) : motive max input := by
  induction max generalizing input with
  | zero => exact atMax input
  | succ max ih =>
    cases hfirst : firstLength? members input with
    | none => exact noMember max input hfirst
    | some n =>
      cases n with
      | zero => exact emptyMember max input hfirst
      | succ n => exact stride max input n hfirst (ih _)

/-- A sweep asks for nothing but the first length at each place. -/
theorem sweep_congr {members' : List Member} (h : ∀ n, firstLength? members' (input.drop n) =
    firstLength? members (input.drop n)) (max : Nat) :
    sweep members' max input = sweep members max input := by
  induction max, input using sweep_induction members with
  | atMax input => rfl
  | noMember max input hnone =>
    have hfront : firstLength? members' input = none := (h 0).trans hnone
    rw [sweep_of_none hnone, sweep_of_none hfront]
  | emptyMember max input hempty =>
    have hfront : firstLength? members' input = some 0 := (h 0).trans hempty
    rw [sweep_of_empty hempty, sweep_of_empty hfront]
  | stride max input n hstride ih =>
    have hfront : firstLength? members' input = some (n + 1) := (h 0).trans hstride
    have hmore : ∀ k, firstLength? members' ((input.drop (n + 1)).drop k) =
        firstLength? members ((input.drop (n + 1)).drop k) := by
      intro k
      rw [List.drop_drop]
      exact h _
    rw [sweep_of_stride hstride, sweep_of_stride hfront, ih hmore]

theorem length_sweep_le (members : List Member) (max : Nat) (input : Cursor) :
    (sweep members max input).length ≤ input.length := by
  induction max, input using sweep_induction members with
  | atMax input => exact Nat.zero_le _
  | noMember max input hnone => simp [sweep_of_none hnone]
  | emptyMember max input hempty => simp [sweep_of_empty hempty]
  | stride max input n hstride ih =>
    have hle := firstLength?_le_length hstride
    rw [List.length_drop] at ih
    rw [sweep_of_stride hstride]
    show n + 1 + (sweep members max (input.drop (n + 1))).length ≤ input.length
    omega

/-- A sweep that could have gone on ends where no member matches, or the empty literal first. -/
theorem firstLength?_behind_sweep (members : List Member) (max : Nat) (input : Cursor) :
    ((sweep members max input).stop = .noMember →
      firstLength? members (input.drop (sweep members max input).length) = none) ∧
    ((sweep members max input).stop = .emptyMember →
      firstLength? members (input.drop (sweep members max input).length) = some 0) := by
  induction max, input using sweep_induction members with
  | atMax input => exact ⟨fun h => (nomatch h), fun h => (nomatch h)⟩
  | noMember max input hnone =>
    rw [sweep_of_none hnone]
    exact ⟨fun _ => hnone, fun h => (nomatch h)⟩
  | emptyMember max input hempty =>
    rw [sweep_of_empty hempty]
    exact ⟨fun h => (nomatch h), fun _ => hempty⟩
  | stride max input n hstride ih =>
    rw [sweep_of_stride hstride]
    simp only [List.drop_drop] at ih
    exact ih

theorem stop_sweep_ne_emptyMember (h : .literal "" ∉ members) (max : Nat) (input : Cursor) :
    (sweep members max input).stop ≠ .emptyMember := by
  intro hstop
  have hempty := (firstLength?_behind_sweep members max input).2 hstop
  obtain ⟨before, after, rfl, -⟩ := (firstLength?_eq_zero_iff.1 hempty).exists_before
  exact h (List.mem_append_right before List.mem_cons_self)

/-! ## Cut inputs -/

/-- **What lies behind a sweep makes no difference to it,** nor does its absence. -/
theorem sweep_take (hn : (sweep members max input).length ≤ n) :
    sweep members max (input.take n) = sweep members max input := by
  induction max, input using sweep_induction members generalizing n with
  | atMax input => rfl
  | noMember max input hnone =>
    rw [sweep_of_none hnone, sweep_of_none (firstLength?_take_eq_none hnone n)]
  | emptyMember max input hempty =>
    rw [sweep_of_empty hempty, sweep_of_empty (firstLength?_take_eq_some hempty (Nat.zero_le n))]
  | stride max input k hstride ih =>
    rw [sweep_of_stride hstride] at hn ⊢
    -- the stride is a part of the sweep, so it ends in front of the cut
    have hle : k + 1 + (sweep members max (input.drop (k + 1))).length ≤ n := hn
    have hfirst := firstLength?_take_eq_some hstride (show k + 1 ≤ n by omega)
    rw [sweep_of_stride hfirst, List.drop_take, ih (by omega)]

/-! ## More members and a larger maximum -/

/-- `t` goes at least as far as `s`, and stops at an empty literal if `s` does. -/
structure Sweep.Extends (t s : Sweep) : Prop where
  count_le : s.count ≤ t.count
  length_le : s.length ≤ t.length
  stop_eq : s.stop = .emptyMember → t.stop = .emptyMember

theorem Sweep.Extends.refl (s : Sweep) : s.Extends s := ⟨Nat.le_refl _, Nat.le_refl _, id⟩

theorem Sweep.Extends.behind {s t : Sweep} (h : t.Extends s) (n : Nat) :
    (t.behind n).Extends (s.behind n) :=
  ⟨Nat.succ_le_succ h.count_le, Nat.add_le_add_left h.length_le n, h.stop_eq⟩

/-- **With further members and a larger maximum a sweep goes at least as far:** the members that
are declared later are asked only where the first ones do not match. -/
theorem extends_sweep (more : List Member) {max' : Nat} (hmax : max ≤ max') (input : Cursor) :
    (sweep (members ++ more) max' input).Extends (sweep members max input) := by
  have happend : ∀ {input k}, firstLength? members input = some k →
      firstLength? (members ++ more) input = some k := by
    intro input k hk
    rw [firstLength?_append, hk, Option.some_or]
  induction max, input using sweep_induction members generalizing max' with
  | atMax input => exact ⟨Nat.zero_le _, Nat.zero_le _, fun h => (nomatch h)⟩
  | noMember max input hnone =>
    rw [sweep_of_none hnone]
    exact ⟨Nat.zero_le _, Nat.zero_le _, fun h => (nomatch h)⟩
  | emptyMember max input hempty =>
    obtain ⟨max', rfl⟩ := Nat.exists_eq_succ_of_ne_zero (show max' ≠ 0 by omega)
    rw [sweep_of_empty hempty, sweep_of_empty (happend hempty)]
    exact .refl _
  | stride max input k hstride ih =>
    obtain ⟨max', rfl⟩ := Nat.exists_eq_succ_of_ne_zero (show max' ≠ 0 by omega)
    rw [sweep_of_stride hstride, sweep_of_stride (happend hstride)]
    exact (ih (Nat.le_of_succ_le_succ hmax)).behind (k + 1)

/-! ## Two sweeps in a row -/

/-- A sweep, and another one behind it if it was the maximum that stopped the first. -/
def Sweep.andThen (s t : Sweep) : Sweep :=
  match s.stop with
  | .atMax => ⟨s.count + t.count, s.length + t.length, t.stop⟩
  | .noMember | .emptyMember => s

theorem Sweep.behind_andThen (n : Nat) (s t : Sweep) :
    (s.behind n).andThen t = (s.andThen t).behind n := by
  obtain ⟨count, length, stop⟩ := s
  cases stop with
  | atMax =>
    simp only [behind, andThen, Sweep.mk.injEq, and_true]
    omega
  | noMember | emptyMember => rfl

/-- **A sweep can be made in two parts,** the second one from where the first one ends. -/
theorem sweep_add (members : List Member) (a b : Nat) (input : Cursor) :
    sweep members (a + b) input =
      (sweep members a input).andThen
        (sweep members b (input.drop (sweep members a input).length)) := by
  induction a, input using sweep_induction members with
  | atMax input => simp only [sweep, Sweep.andThen, Nat.zero_add, List.drop_zero]
  | noMember a input hnone =>
    rw [Nat.add_right_comm, sweep_of_none hnone, sweep_of_none hnone]
    rfl
  | emptyMember a input hempty =>
    rw [Nat.add_right_comm, sweep_of_empty hempty, sweep_of_empty hempty]
    rfl
  | stride a input n hstride ih =>
    rw [Nat.add_right_comm, sweep_of_stride hstride, sweep_of_stride hstride, ih,
      Sweep.behind_andThen, List.drop_drop]
    rfl

theorem count_sweep_of_none (h : firstLength? members input = none) (max : Nat) :
    (sweep members max input).count = 0 := by
  cases max with
  | zero => rfl
  | succ max => rw [sweep_of_none h]

theorem length_sweep_eq_zero (h : ∀ n, firstLength? members input ≠ some (n + 1)) (max : Nat) :
    (sweep members max input).length = 0 := by
  induction max, input using sweep_induction members with
  | atMax input => rfl
  | noMember max input hnone => rw [sweep_of_none hnone]
  | emptyMember max input hempty => rw [sweep_of_empty hempty]
  | stride max input n hstride => exact absurd hstride (h n)

/-- The lengths of the two parts add up, as nothing is gone over behind a sweep that could have gone
on. -/
theorem length_sweep_add (members : List Member) (a b : Nat) (input : Cursor) :
    (sweep members (a + b) input).length = (sweep members a input).length +
      (sweep members b (input.drop (sweep members a input).length)).length := by
  obtain ⟨hnone, hempty⟩ := firstLength?_behind_sweep members a input
  rw [sweep_add]
  cases hstop : (sweep members a input).stop with
  | atMax => simp only [Sweep.andThen, hstop]
  | noMember =>
    have hover := length_sweep_eq_zero (fun n h => nomatch (hnone hstop).symm.trans h) b
    simp only [Sweep.andThen, hstop, hover, Nat.add_zero]
  | emptyMember =>
    have hover := length_sweep_eq_zero (fun n h => nomatch (hempty hstop).symm.trans h) b
    simp only [Sweep.andThen, hstop, hover, Nat.add_zero]

/-- The counts add up unless an empty literal, which is counted too, stops both parts. -/
theorem count_sweep_add (h : .literal "" ∉ members) (a b : Nat) (input : Cursor) :
    (sweep members (a + b) input).count = (sweep members a input).count +
      (sweep members b (input.drop (sweep members a input).length)).count := by
  rw [sweep_add]
  cases hstop : (sweep members a input).stop with
  | atMax => simp only [Sweep.andThen, hstop]
  | noMember =>
    have hnone := (firstLength?_behind_sweep members a input).1 hstop
    simp only [Sweep.andThen, hstop, count_sweep_of_none hnone, Nat.add_zero]
  | emptyMember => exact absurd hstop (stop_sweep_ne_emptyMember h a input)

end

end TypedExtraction.Repetition
