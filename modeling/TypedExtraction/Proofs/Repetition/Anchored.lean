import TypedExtraction.Proofs.Repetition.Leftmost
import TypedExtraction.Proofs.Repetition.Sweep

/-!
# Laws of matching at the front

A match at the front is what a sweep makes, provided that the sweep reaches the
minimum (`matchAt?_eq_some_iff`). So the laws of sweeps are laws of matches. A
match stays the same where the input is cut behind it (`matchIn_limit`). Further
members and wider bounds lose no match and shorten none (`matchIn_mono`). Where
nothing has to be repeated, a match can be made in two parts
(`matchIn_upTo_add`).
-/

namespace TypedExtraction.Repetition

open Text

/-! ## Matches of sweeps -/

namespace Sweep

/-- Whether a sweep is enough for a minimum; an empty literal is repeated as often as needed. -/
def Reaches (s : Sweep) (min : Nat) : Prop := s.stop = .emptyMember ∨ min ≤ s.count

/-- The match that a sweep from the front of an input makes. -/
def toMatch (s : Sweep) (min : Nat) (input : Cursor) : Match :=
  ⟨0, String.ofList (input.take s.length), s.length, s.repetitions min⟩

section
variable {s t : Sweep} {min min' : Nat}

theorem repetitions_zero (s : Sweep) : s.repetitions 0 = s.count := by
  unfold repetitions
  split
  · exact Nat.max_zero s.count
  · rfl

theorem repetitions_lt_iff : s.repetitions min < min ↔ ¬ s.Reaches min := by
  obtain ⟨count, length, stop⟩ := s
  cases stop with
  | atMax | noMember => simp [repetitions, Reaches]
  | emptyMember =>
    have hle : min ≤ Nat.max count min := Nat.le_max_right count min
    exact iff_of_false (Nat.not_lt.2 hle) fun h => h (.inl rfl)

theorem Extends.reaches (h : t.Extends s) (hs : s.Reaches min) (hmin : min' ≤ min) :
    t.Reaches min' := by
  rcases hs with hstop | hcount
  · exact .inl (h.stop_eq hstop)
  · have hle := h.count_le
    exact .inr (by omega)

end

end Sweep

/-- A class list that is repeated as often as possible, but no more than `max` times. -/
def upTo (members : List Member) (max : Nat) (hmax : max ≤ unbounded) : Repetition :=
  ⟨members, 0, max, Nat.zero_le max, hmax⟩

section
variable {r : Repetition} {input : Cursor} {m : Match} {n : Nat}

/-- **A match at the front is the match of a sweep** that reaches the minimum. -/
theorem matchAt?_eq_some_iff : r.matchAt? input = some m ↔
    (sweep r.members r.max input).Reaches r.min ∧
      (sweep r.members r.max input).toMatch r.min input = m := by
  rw [matchAt?_eq_sweep]
  split
  · rename_i hlt
    exact iff_of_false (fun h => nomatch h) fun h => Sweep.repetitions_lt_iff.1 hlt h.1
  · rename_i hge
    rw [Sweep.repetitions_lt_iff, not_not] at hge
    rw [Option.some.injEq, and_iff_right hge]
    rfl

theorem matchAt?_take (h : r.matchAt? input = some m) (hn : m.length ≤ n) :
    r.matchAt? (input.take n) = some m := by
  obtain ⟨hreaches, rfl⟩ := matchAt?_eq_some_iff.1 h
  have hle : (sweep r.members r.max input).length ≤ n := hn
  rw [matchAt?_eq_some_iff, sweep_take hle]
  refine ⟨hreaches, ?_⟩
  rw [Sweep.toMatch, Sweep.toMatch, List.take_take, Nat.min_eq_left hle]

theorem matchAt?_upTo (members : List Member) {max : Nat} (hmax : max ≤ unbounded)
    (input : Cursor) :
    (upTo members max hmax).matchAt? input = some ((sweep members max input).toMatch 0 input) :=
  matchAt?_eq_some_iff.2 ⟨.inr (Nat.zero_le _), rfl⟩

end

/-! ## Laws -/

/-- **A match does not depend on what lies behind it.** Where the input is cut at the end of the
match or anywhere behind it, the same match is made, with the same text and the same number of
repetitions. In particular the text of a match is matched as a whole. -/
theorem matchIn_limit (r : Repetition) (input : Cursor) (m : Match)
    (h : r.matchIn .anchored input = .ok m) :
    (∀ n, m.length ≤ n → r.matchIn .anchored (input.limit n) = .ok m) ∧
      r.matchIn .anchored m.text.toList = .ok m := by
  have hm : r.matchAt? input = some m := matchIn_eq_ok_iff.1 h
  have hcut : ∀ n, m.length ≤ n → r.matchIn .anchored (input.limit n) = .ok m := fun n hn =>
    matchIn_eq_ok_iff.2 (matchAt?_take hm hn)
  refine ⟨hcut, ?_⟩
  rw [(front_of_matchAt? hm).2.2]
  exact hcut m.length (Nat.le_refl _)

/-- The empty literal stops at a place that is the end of the cut input, and is repeated there as
often as before. -/
theorem matchIn_limit_empty_literal :
    let r : Repetition := ⟨[.literal "abc", .interval 'a' 'b', .literal ""], 5, 7, by decide,
      by decide⟩
    let input : Cursor := "abcab.abc".toList
    let m : Match := ⟨0, "abcab", 5, 5⟩
    r.matchIn .anchored input = .ok m ∧ r.matchIn .anchored (input.limit 7) = .ok m ∧
      r.matchIn .anchored "abcab".toList = .ok m := by
  intro r input m
  have h : r.matchIn .anchored input = .ok m := by decide +kernel
  obtain ⟨hcut, htext⟩ := matchIn_limit r input m h
  exact ⟨h, hcut 7 (by decide), htext⟩

/-- **Further members and wider bounds lose no match.** If there is a match, then there is also one
with any members declared behind the others, a lower minimum and a higher maximum, and the text that
is matched then begins with the one that was matched before. -/
theorem matchIn_mono (r r' : Repetition) (more : List Member)
    (hmembers : r'.members = r.members ++ more) (hmin : r'.min ≤ r.min) (hmax : r.max ≤ r'.max)
    (input : Cursor) (m : Match) (h : r.matchIn .anchored input = .ok m) :
    ∃ m', r'.matchIn .anchored input = .ok m' ∧ m.text.toList <+: m'.text.toList := by
  obtain ⟨hreaches, rfl⟩ := matchAt?_eq_some_iff.1 (matchIn_eq_ok_iff.1 h)
  have hext : (sweep r'.members r'.max input).Extends (sweep r.members r.max input) := by
    rw [hmembers]
    exact extends_sweep more hmax input
  refine ⟨_, matchIn_eq_ok_iff.2 (matchAt?_eq_some_iff.2 ⟨hext.reaches hreaches hmin, rfl⟩), ?_⟩
  simp only [Sweep.toMatch, String.toList_ofList]
  exact List.take_prefix_take_left hext.length_le

/-- A digit is a further member, and the maximum that stopped the first match is gone. -/
theorem matchIn_mono_digit :
    let r : Repetition := ⟨[.literal "ab"], 1, 2, by decide, by decide⟩
    let r' : Repetition := ⟨[.literal "ab", .interval '0' '9'], 0, unbounded, by decide, by decide⟩
    let input : Cursor := "ababab7".toList
    let m : Match := ⟨0, "abab", 4, 2⟩
    r'.members = r.members ++ [.interval '0' '9'] ∧ r'.min ≤ r.min ∧ r.max ≤ r'.max ∧
      r.matchIn .anchored input = .ok m ∧
      ∃ m', r'.matchIn .anchored input = .ok m' ∧ m.text.toList <+: m'.text.toList := by
  intro r r' input m
  have hmax : r.max ≤ r'.max := by decide
  have h : r.matchIn .anchored input = .ok m := by decide +kernel
  exact ⟨rfl, Nat.zero_le 1, hmax, h,
    matchIn_mono r r' [.interval '0' '9'] rfl (Nat.zero_le 1) hmax input m h⟩

/-- **Up to `a + b` repetitions are up to `a` and then up to `b` repetitions.** All three matches are
made, the texts of the two parts make up the text of the whole, and without the empty literal the
repetitions add up as well. -/
theorem matchIn_upTo_add (members : List Member) (input : Cursor) (a b : Nat)
    (hab : a + b ≤ unbounded) :
    ∃ m₁ m₂ m,
      (upTo members a (Nat.le_trans (Nat.le_add_right a b) hab)).matchIn .anchored input = .ok m₁ ∧
      (upTo members b (Nat.le_trans (Nat.le_add_left b a) hab)).matchIn .anchored
        (input.advance m₁.length) = .ok m₂ ∧
      (upTo members (a + b) hab).matchIn .anchored input = .ok m ∧
      m.text = m₁.text ++ m₂.text ∧
      (.literal "" ∉ members → m.repetitions = m₁.repetitions + m₂.repetitions) := by
  refine ⟨_, _, _, matchIn_eq_ok_iff.2 (matchAt?_upTo members _ input),
    matchIn_eq_ok_iff.2 (matchAt?_upTo members _ _),
    matchIn_eq_ok_iff.2 (matchAt?_upTo members hab input), ?_, fun hempty => ?_⟩
  · simp only [Sweep.toMatch, Cursor.advance]
    rw [length_sweep_add, List.take_add, String.ofList_append]
  · simp only [Sweep.toMatch, Cursor.advance, Sweep.repetitions_zero]
    exact count_sweep_add hempty a b input

/-- The first part is stopped by its maximum, the second one and the whole by a dot. -/
theorem matchIn_upTo_add_dot :
    let members : List Member := [.literal "ab", .interval '0' '9']
    let input : Cursor := "ab12ab.".toList
    let m : Match := ⟨0, "ab12ab", 6, 4⟩
    2 + 3 ≤ unbounded ∧ (upTo members 5 (by decide)).matchIn .anchored input = .ok m ∧
      ∃ m₁ m₂ : Match, m.text = m₁.text ++ m₂.text ∧
        m.repetitions = m₁.repetitions + m₂.repetitions := by
  intro members input m
  have hab : 2 + 3 ≤ unbounded := by decide
  have h : (upTo members 5 (by decide)).matchIn .anchored input = .ok m := by decide +kernel
  obtain ⟨m₁, m₂, m', -, -, hm', htext, hcount⟩ := matchIn_upTo_add members input 2 3 hab
  obtain rfl : m = m' := Except.ok.inj (h.symm.trans hm')
  exact ⟨hab, h, m₁, m₂, htext, hcount (by decide)⟩

end TypedExtraction.Repetition
