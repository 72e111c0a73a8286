import Mathlib.Algebra.Group.Nat.Defs
import Mathlib.Data.List.TakeWhile
import TypedExtraction.Text.Decimal

/-!
# Runs of digits

Where a run of digits ends, and the number it stands for. The decimal value of
a run of any length is `Nat.ofDigitChars 10`; a value of a width is that number
modulo the width (`toNat_wrapped`). `write` gives back a run with the same value
(`ofDigitChars_write`).
-/

namespace TypedExtraction.Text.Decimal

abbrev Digits (ds : List Char) : Prop := ∀ c ∈ ds, c.isDigit = true

/-- What follows does not begin with a digit. -/
abbrev NoDigitAhead (rest : Cursor) : Prop := ∀ c, rest.head? = some c → c.isDigit = false

/-- What may stand in front of the digits of a signed number. -/
def IsSign (sign : List Char) : Prop := sign = [] ∨ sign = ['+'] ∨ sign = ['-']

/-! ## Length -/

theorem digitRun_le_length (c : Cursor) : digitRun c ≤ c.length :=
  (List.takeWhile_prefix _).length_le

theorem digitRun_take (c : Cursor) (n : Nat) : digitRun (c.take n) = min n (digitRun c) := by
  rw [digitRun, ← List.take_takeWhile, List.length_take]
  rfl

theorem take_digitRun (c : Cursor) : c.take (digitRun c) = c.takeWhile Char.isDigit :=
  (List.prefix_iff_eq_take.1 (List.takeWhile_prefix _)).symm

theorem digits_take_digitRun (c : Cursor) : Digits (c.take (digitRun c)) := by
  intro a ha
  rw [take_digitRun] at ha
  exact List.mem_takeWhile_imp ha

theorem digitRun_append {ds : List Char} (hds : Digits ds) {rest : Cursor}
    (hrest : NoDigitAhead rest) : digitRun (ds ++ rest) = ds.length := by
  rw [digitRun, List.takeWhile_append_of_pos hds]
  cases rest with
  | nil => simp
  | cons c rest => simp [hrest c rfl]

theorem signLength_le_length (c : Cursor) : signLength c ≤ c.length := by
  cases c with
  | nil => exact Nat.le_refl 0
  | cons a c => unfold signLength; split <;> simp

theorem signLength_take_succ (c : Cursor) (n : Nat) :
    signLength (c.take (n + 1)) = signLength c := by
  cases c <;> rfl

theorem signedRun_eq (c : Cursor) :
    signedRun c = if digitRun (c.drop (signLength c)) = 0 then 0
      else signLength c + digitRun (c.drop (signLength c)) := by
  unfold signedRun Cursor.advance
  split
  · rename_i h; rw [if_pos h]
  · rename_i h; rw [if_neg h]

theorem signLength_append {sign ds : List Char} (hs : IsSign sign) (hd : Digits ds) (hne : ds ≠ [])
    (rest : Cursor) : signLength (sign ++ (ds ++ rest)) = sign.length := by
  rcases hs with rfl | rfl | rfl
  · cases ds with
    | nil => exact absurd rfl hne
    | cons d ds =>
      have hdigit := hd d List.mem_cons_self
      rw [signLength, Cursor.peek?]
      simp only [List.nil_append, List.cons_append, List.head?_cons]
      split
      · rename_i h; cases h; cases hdigit
      · rename_i h; cases h; cases hdigit
      · rfl
  · rfl
  · rfl

theorem signedRun_append {sign ds : List Char} (hs : IsSign sign) (hd : Digits ds) (hne : ds ≠ [])
    {rest : Cursor} (hrest : NoDigitAhead rest) :
    signedRun (sign ++ (ds ++ rest)) = sign.length + ds.length := by
  rw [signedRun_eq, signLength_append hs hd hne, List.drop_left, digitRun_append hd hrest,
    if_neg (mt List.length_eq_zero_iff.1 hne)]

theorem signedRun_le_length (c : Cursor) : signedRun c ≤ c.length := by
  have hs := signLength_le_length c
  have hd := digitRun_le_length (c.drop (signLength c))
  rw [List.length_drop] at hd
  rw [signedRun_eq]
  split <;> omega

/-- A signed run is seen whole as soon as its own characters are. -/
theorem signedRun_take {c : Cursor} {n : Nat} (hn : signedRun c ≤ n) :
    signedRun (c.take n) = signedRun c := by
  cases n with
  | zero =>
    have : signedRun c = 0 := by omega
    rw [this, List.take_zero]
    rfl
  | succ n =>
    have hd : digitRun ((c.take (n + 1)).drop (signLength c)) =
        min (n + 1 - signLength c) (digitRun (c.drop (signLength c))) := by
      rw [List.drop_take, digitRun_take]
    rw [signedRun_eq] at hn ⊢
    rw [signedRun_eq, signLength_take_succ, hd]
    split at hn
    · rename_i h0
      simp [h0]
    · rename_i h0
      rw [Nat.min_eq_right (by omega)]

/-! ## Value -/

theorem wrapped_eq_ofNat (width : Nat) (ds : List Char) :
    wrapped width ds = BitVec.ofNat width (Nat.ofDigitChars 10 ds 0) := by
  refine List.foldl_hom (BitVec.ofNat width) fun n c => ?_
  rw [BitVec.ofNat_add, BitVec.ofNat_mul, BitVec.mul_comm]
  rfl

theorem toNat_wrapped (width : Nat) (ds : List Char) :
    (wrapped width ds).toNat = Nat.ofDigitChars 10 ds 0 % 2 ^ width := by
  rw [wrapped_eq_ofNat, BitVec.toNat_ofNat]

theorem digits_write (n : Nat) : Digits (write n) := fun _ hc =>
  Nat.isDigit_of_mem_toDigits (by decide) (by decide) hc

theorem write_ne_nil (n : Nat) : write n ≠ [] := Nat.toDigits_ne_nil

theorem ofDigitChars_write (n : Nat) : Nat.ofDigitChars 10 (write n) 0 = n :=
  Nat.ofDigitChars_ten_toDigits

theorem toList_toString (n : Nat) : (toString n).toList = write n := by
  rw [Nat.toString_eq_repr, Nat.toList_repr]
  rfl

theorem write_inj {m n : Nat} (h : write m = write n) : m = n := by
  rw [← ofDigitChars_write m, h, ofDigitChars_write]

/-- A written number tells the number and where it ends, unless a digit follows. -/
theorem write_append_inj {m n : Nat} {rest rest' : Cursor} (hrest : NoDigitAhead rest)
    (hrest' : NoDigitAhead rest') (h : write m ++ rest = write n ++ rest') :
    m = n ∧ rest = rest' := by
  have hlen := digitRun_append (digits_write m) hrest
  rw [h, digitRun_append (digits_write n) hrest'] at hlen
  obtain ⟨hwrite, hrest⟩ := List.append_inj h hlen.symm
  exact ⟨write_inj hwrite, hrest⟩

theorem signedWrapped_of_digits {ds : List Char} (hd : Digits ds) (width : Nat) :
    signedWrapped width ds = wrapped width ds := by
  unfold signedWrapped
  split
  · exact absurd (hd '-' List.mem_cons_self) (by decide)
  · exact absurd (hd '+' List.mem_cons_self) (by decide)
  · rfl

end TypedExtraction.Text.Decimal
