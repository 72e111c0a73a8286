import Mathlib.Computability.Language
import TypedExtraction.Proofs.Repetition.Leftmost

/-!
# The language of a repetition

The words of a class list are those of its members, and its powers hold the
concatenations of so many words. `Accepts` says that a text at the front of an
input is a concatenation of as many words as the bounds allow. Matching gives
nothing else: a match is a text of the power that it counts
(`accepts_of_matchAt?`), at the place that it tells (`matchIn_sound`).
-/

namespace TypedExtraction

open Text

namespace Member

def words (members : List Member) : Language Char :=
  {word | ∃ m ∈ members, m.IsWord word}

section
variable {members : List Member} {input : Cursor} {n count : Nat} {word text : List Char}

theorem mem_words : word ∈ words members ↔ ∃ m ∈ members, m.IsWord word := Iff.rfl

theorem IsFirst.mem_words {m : Member} (h : IsFirst members input m word) :
    word ∈ words members := by
  obtain ⟨before, after, rfl, -⟩ := h.exists_before
  exact ⟨m, by simp, h.isWord⟩

theorem mem_pow_zero : text ∈ words members ^ 0 ↔ text = [] := by
  rw [pow_zero]
  exact Language.mem_one text

theorem mem_pow_succ : text ∈ words members ^ (n + 1) ↔
    ∃ word ∈ words members, ∃ more ∈ words members ^ n, word ++ more = text := by
  rw [pow_succ']
  exact Language.mem_mul

/-- Where the empty text is a word, there can be more words in a text. -/
theorem mem_pow_of_le (hempty : [] ∈ words members) (h : text ∈ words members ^ count)
    (hle : count ≤ n) : text ∈ words members ^ n := by
  induction n, hle using Nat.le_induction with
  | base => exact h
  | succ n _ ih => exact mem_pow_succ.2 ⟨[], hempty, text, ih, rfl⟩

end

end Member

namespace Repetition

open Member

/-- `text` is at the front of an input, and it is a concatenation of `count` words. -/
structure Accepts (r : Repetition) (input : Cursor) (text : List Char) (count : Nat) : Prop where
  isPrefix : text <+: input
  mem_pow : text ∈ words r.members ^ count
  min_le : r.min ≤ count
  le_max : count ≤ r.max

section
variable {members : List Member} {max p q : Nat} {input : Cursor} {ps : List Nat} {stop : Stop}

theorem Stride.exists_word (h : Stride members input p q) :
    ∃ word ∈ words members, word.length = q - p ∧ input.drop p = word ++ input.drop q := by
  obtain ⟨hlt, m, word, hfirst, hlen⟩ := h
  obtain ⟨rest, hrest⟩ := hfirst.isPrefix
  refine ⟨word, hfirst.mem_words, hlen.symm, ?_⟩
  have hq : q = p + word.length := by omega
  rw [hq, ← List.drop_drop, ← hrest, List.drop_left]

/-- **The characters between the positions are a concatenation of words,** one for each stride. -/
theorem Positions.mem_pow (h : Positions members max input p ps stop) :
    (input.drop p).take (ps.getLastD p - p) ∈ words members ^ ps.length := by
  induction ps generalizing max p with
  | nil => simp
  | cons q ps ih =>
    obtain ⟨max, rfl, hpq, h⟩ := h.exists_of_cons
    obtain ⟨word, hword, hlen, hdrop⟩ := hpq.exists_word
    have hle := h.le_getLastD
    have hlt := hpq.1
    rw [List.getLastD_cons, hdrop, List.take_append, List.take_of_length_le (by omega)]
    have hsub : ps.getLastD q - p - word.length = ps.getLastD q - q := by omega
    rw [hsub]
    exact mem_pow_succ.2 ⟨word, hword, _, ih h, rfl⟩

end

variable {r : Repetition} {input : Cursor} {m : Match}

/-- **A match at the front is accepted.** -/
theorem accepts_of_matchAt? (h : r.matchAt? input = some m) :
    r.Accepts input m.text.toList m.repetitions := by
  obtain ⟨ps, stop, hps, hge, rfl⟩ := exists_positions_of_matchAt? h
  have hmem := hps.mem_pow
  rw [List.drop_zero, Nat.sub_zero] at hmem
  refine ⟨?_, ?_, Nat.not_lt.1 hge, hps.repetitions_le⟩
  · rw [String.toList_ofList]
    exact List.take_prefix _ _
  · rw [String.toList_ofList]
    cases stop with
    | atMax | noMember => exact hmem
    | emptyMember =>
      -- the count is raised to the minimum by repeating the empty literal
      have hle : ps.length + 1 ≤ Stop.emptyMember.repetitions ps.length r.min := Nat.le_max_left _ _
      exact mem_pow_of_le hps.applies.2.mem_words hmem (Nat.le_of_succ_le hle)

/-- **Matching is sound.** What is matched is a concatenation of as many words as are counted, the
count is within the bounds, and the text is the part of the input that begins at the offset and has
the length of the match. -/
theorem matchIn_sound (r : Repetition) (mode : Mode) (input : Cursor) (m : Match)
    (h : r.matchIn mode input = .ok m) :
    m.text.toList ∈ words r.members ^ m.repetitions ∧
      r.min ≤ m.repetitions ∧ m.repetitions ≤ r.max ∧
      m.length = m.text.toList.length ∧
      ∃ before after, input = before ++ m.text.toList ++ after ∧ before.length = m.offset := by
  obtain ⟨m', hm', hoffset, hm⟩ := exists_of_matchIn? (matchIn_eq_ok_iff.1 h)
  obtain ⟨-, hlen, htext⟩ := front_of_matchAt? hm'
  obtain ⟨⟨after, hafter⟩, hpow, hmin, hmax⟩ := accepts_of_matchAt? hm'
  rw [hm]
  refine ⟨hpow, hmin, hmax, ?_, input.take m.offset, after, ?_, List.length_take_of_le hoffset⟩
  · rw [htext, List.length_take_of_le hlen]
  · rw [List.append_assoc, hafter, List.take_append_drop]

/-- The empty literal is passed over where it leads nowhere, and repeated where it stops a match
that is too short. -/
theorem matchIn_sound_empty_literal :
    let r : Repetition := ⟨[.interval 'a' 'c', .literal ""], 5, 7, by decide, by decide⟩
    let m : Match := ⟨2, "ab", 2, 5⟩
    r.matchIn .scanning "..ab.".toList = .ok m ∧ "ab".toList ∈ words r.members ^ 5 ∧
      r.min ≤ m.repetitions ∧ m.repetitions ≤ r.max := by
  intro r m
  have h : r.matchIn .scanning "..ab.".toList = .ok m := by decide +kernel
  obtain ⟨hpow, hmin, hmax, -⟩ := matchIn_sound r .scanning "..ab.".toList m h
  exact ⟨h, hpow, hmin, hmax⟩

end Repetition

end TypedExtraction
