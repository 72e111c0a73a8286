import Mathlib.Data.List.Basic
import TypedExtraction.Member

/-!
# Words of class members

A literal has one word, its text, and an interval has each single character
between its ends as a word. A member takes a number of characters if it has a
word of this length at the front (`lengthAt?_eq_some_iff`), and in a class list
the member declared first decides (`IsFirst`, `firstLength?_eq_some_iff`).
-/

namespace TypedExtraction.Member

open Text

/-- The words of a member; an interval with its ends reversed has none. -/
def IsWord : Member → List Char → Prop
  | .literal text, word => word = text.toList
  | .interval first last, word => ∃ c, word = [c] ∧ first ≤ c ∧ c ≤ last

/-- Whether a word of a member is at the front. -/
def Matches (m : Member) (input : Cursor) : Prop := ∃ word, m.IsWord word ∧ word <+: input

/-- Of all members, `m` is the first that matches at the front, and it does so with `word`. -/
structure IsFirst (members : List Member) (input : Cursor) (m : Member) (word : List Char) :
    Prop where
  isWord : m.IsWord word
  isPrefix : word <+: input
  exists_before : ∃ before after, members = before ++ m :: after ∧
    ∀ other ∈ before, ¬ other.Matches input

section
variable {m : Member} {members : List Member} {input : Cursor} {n : Nat} {word : List Char}

theorem eq_literal_of_isWord_nil (h : m.IsWord []) : m = .literal "" := by
  cases m with
  | literal text => rw [← String.toList_eq_nil_iff.1 h.symm]
  | interval first last =>
    obtain ⟨c, hc, -⟩ := h
    cases hc

theorem lengthAt?_eq_some_iff :
    m.lengthAt? input = some n ↔ ∃ word, m.IsWord word ∧ word <+: input ∧ word.length = n := by
  cases m with
  | literal text =>
    simp only [lengthAt?, IsWord, Cursor.startsWith_eq_true_iff]
    constructor
    · intro h
      split at h
      · rename_i hp
        exact ⟨_, rfl, hp, Option.some.inj h⟩
      · cases h
    · rintro ⟨_, rfl, hp, rfl⟩
      rw [if_pos hp]
  | interval first last =>
    cases input with
    | nil =>
      constructor
      · rintro ⟨⟩
      · rintro ⟨_, ⟨c, rfl, -⟩, hp, -⟩
        cases List.prefix_nil.1 hp
    | cons a input =>
      have hlen : lengthAt? (.interval first last) (a :: input) =
          if first ≤ a ∧ a ≤ last then some 1 else none := rfl
      rw [hlen]
      constructor
      · intro h
        split at h
        · rename_i ha
          exact ⟨[a], ⟨a, rfl, ha⟩, List.prefix_append [a] input, Option.some.inj h⟩
        · cases h
      · rintro ⟨_, ⟨c, rfl, hc⟩, hp, rfl⟩
        obtain rfl := (List.cons_prefix_cons.1 hp).1
        rw [if_pos hc]
        rfl

theorem lengthAt?_eq_none_iff : m.lengthAt? input = none ↔ ¬ m.Matches input := by
  rw [← Option.not_isSome_iff_eq_none, Option.isSome_iff_exists]
  refine not_congr ⟨?_, ?_⟩
  · rintro ⟨n, hn⟩
    obtain ⟨word, hw, hp, -⟩ := lengthAt?_eq_some_iff.1 hn
    exact ⟨word, hw, hp⟩
  · rintro ⟨word, hw, hp⟩
    exact ⟨word.length, lengthAt?_eq_some_iff.2 ⟨word, hw, hp, rfl⟩⟩

/-- **In a class list the member declared first decides.** -/
theorem firstLength?_eq_some_iff :
    firstLength? members input = some n ↔ ∃ m word, IsFirst members input m word ∧
      word.length = n := by
  rw [firstLength?, List.findSome?_eq_some_iff]
  constructor
  · rintro ⟨before, m, after, rfl, hm, hbefore⟩
    obtain ⟨word, hw, hp, hlen⟩ := lengthAt?_eq_some_iff.1 hm
    refine ⟨m, word, ⟨hw, hp, before, after, rfl, fun other hother => ?_⟩, hlen⟩
    exact lengthAt?_eq_none_iff.1 (hbefore other hother)
  · rintro ⟨m, word, ⟨hw, hp, before, after, rfl, hbefore⟩, hlen⟩
    refine ⟨before, m, after, rfl, lengthAt?_eq_some_iff.2 ⟨word, hw, hp, hlen⟩, ?_⟩
    exact fun other hother => lengthAt?_eq_none_iff.2 (hbefore other hother)

theorem firstLength?_eq_none_iff :
    firstLength? members input = none ↔ ∀ m ∈ members, ¬ m.Matches input := by
  simp only [firstLength?, List.findSome?_eq_none_iff, lengthAt?_eq_none_iff]

theorem firstLength?_le_length (h : firstLength? members input = some n) : n ≤ input.length := by
  obtain ⟨m, word, hfirst, rfl⟩ := firstLength?_eq_some_iff.1 h
  exact hfirst.isPrefix.length_le

theorem firstLength?_append (members more : List Member) (input : Cursor) :
    firstLength? (members ++ more) input =
      (firstLength? members input).or (firstLength? more input) :=
  List.findSome?_append

/-- In the beginning of an input a member takes what it takes in the whole, if it can be seen. -/
theorem lengthAt?_take_eq_some_iff {k : Nat} :
    m.lengthAt? (input.take k) = some n ↔ m.lengthAt? input = some n ∧ n ≤ k := by
  simp only [lengthAt?_eq_some_iff, List.prefix_take_iff]
  constructor
  · rintro ⟨word, hw, ⟨hp, hk⟩, rfl⟩
    exact ⟨⟨word, hw, hp, rfl⟩, hk⟩
  · rintro ⟨⟨word, hw, hp, rfl⟩, hk⟩
    exact ⟨word, hw, ⟨hp, hk⟩, rfl⟩

theorem lengthAt?_take_eq_none (h : m.lengthAt? input = none) (k : Nat) :
    m.lengthAt? (input.take k) = none := by
  refine Option.eq_none_iff_forall_ne_some.2 fun n hn => ?_
  rw [(lengthAt?_take_eq_some_iff.1 hn).1] at h
  cases h

theorem firstLength?_take_eq_none (h : firstLength? members input = none) (k : Nat) :
    firstLength? members (input.take k) = none := by
  rw [firstLength?, List.findSome?_eq_none_iff] at h ⊢
  exact fun m hm => lengthAt?_take_eq_none (h m hm) k

theorem firstLength?_take_eq_some {k : Nat} (h : firstLength? members input = some n)
    (hk : n ≤ k) : firstLength? members (input.take k) = some n := by
  rw [firstLength?, List.findSome?_eq_some_iff] at h ⊢
  obtain ⟨before, m, after, heq, hm, hbefore⟩ := h
  exact ⟨before, m, after, heq, lengthAt?_take_eq_some_iff.2 ⟨hm, hk⟩,
    fun other hother => lengthAt?_take_eq_none (hbefore other hother) k⟩

theorem firstLength?_eq_zero_iff :
    firstLength? members input = some 0 ↔ IsFirst members input (.literal "") [] := by
  rw [firstLength?_eq_some_iff]
  constructor
  · rintro ⟨m, word, h, hlen⟩
    obtain rfl := List.length_eq_zero_iff.1 hlen
    obtain rfl := eq_literal_of_isWord_nil h.isWord
    exact h
  · exact fun h => ⟨_, _, h, rfl⟩

end

end TypedExtraction.Member
