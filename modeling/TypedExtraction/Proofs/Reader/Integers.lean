import Mathlib.Data.Int.ModEq
import TypedExtraction.Proofs.Reader

/-!
# Reading integers

A `Numeral` is what is there to be read: a sign, or none, and all the digits
behind it. It stands for an integer of any size, its `number`. An integer of a
width is read just where a numeral stands, it takes the whole of it, and its
value is the number modulo `2 ^ width` (`read?_unsigned_eq_some_iff`,
`read?_signed_eq_some_iff`). `padded` writes an integer with further zeros; what
is written is a numeral for that integer (`numeral_padded`, `number_padded`), so
it is read back in each width that has the integer (`integers_exact`).
-/

namespace TypedExtraction

open Text

namespace Text.Decimal

/-- A sign, or none, and digits are at the front of an input, and no digit follows. -/
structure Numeral (input : Cursor) (sign ds : List Char) : Prop where
  isSign : IsSign sign
  digits : Digits ds
  ne_nil : ds ≠ []
  exists_rest : ∃ rest, input = sign ++ (ds ++ rest) ∧ NoDigitAhead rest

def number (sign ds : List Char) : Int :=
  if sign = ['-'] then -(Nat.ofDigitChars 10 ds 0 : Int) else Nat.ofDigitChars 10 ds 0

def signOf (n : Int) : List Char := if n < 0 then ['-'] else []

/-- The digits of an integer with so many zeros in front of them. -/
def paddedDigits (zeros : Nat) (n : Int) : List Char := List.replicate zeros '0' ++ write n.natAbs

/-- The decimal form of an integer with so many zeros in front of its digits. -/
def padded (zeros : Nat) (n : Int) : List Char := signOf n ++ paddedDigits zeros n

section
variable {input rest : Cursor} {sign ds : List Char}

/-! ## Numerals -/

theorem noDigitAhead_drop_digitRun (c : Cursor) : NoDigitAhead (c.drop (digitRun c)) := by
  have hdrop : (c.takeWhile Char.isDigit ++ c.dropWhile Char.isDigit).drop (digitRun c) =
      c.dropWhile Char.isDigit := List.drop_left
  rw [List.takeWhile_append_dropWhile] at hdrop
  intro a ha
  have hnot := List.head?_dropWhile_not Char.isDigit c
  rwa [← hdrop, ha] at hnot

theorem isSign_take_signLength (c : Cursor) : IsSign (c.take (signLength c)) := by
  cases c with
  | nil => exact .inl rfl
  | cons a c =>
    unfold signLength
    split
    · rename_i h
      cases h
      exact .inr (.inl rfl)
    · rename_i h
      cases h
      exact .inr (.inr rfl)
    · exact .inl rfl

theorem numeral_of_digitRun (hs : IsSign sign) (h : digitRun input ≠ 0) :
    Numeral (sign ++ input) sign (input.take (digitRun input)) where
  isSign := hs
  digits := digits_take_digitRun input
  ne_nil := by
    rw [take_digitRun]
    exact mt List.length_eq_zero_iff.2 h
  exists_rest := ⟨input.drop (digitRun input), by rw [List.take_append_drop],
    noDigitAhead_drop_digitRun input⟩

theorem exists_numeral_iff :
    (∃ ds, Numeral input sign ds) ↔
      IsSign sign ∧ ∃ c rest, input = sign ++ c :: rest ∧ c.isDigit = true := by
  constructor
  · rintro ⟨ds, hs, hd, hne, rest, rfl, -⟩
    cases ds with
    | nil => exact absurd rfl hne
    | cons c ds => exact ⟨hs, c, ds ++ rest, rfl, hd c List.mem_cons_self⟩
  · rintro ⟨hs, c, rest, rfl, hc⟩
    refine ⟨_, numeral_of_digitRun hs ?_⟩
    rw [digitRun, List.takeWhile_cons_of_pos hc, List.length_cons]
    exact Nat.succ_ne_zero _

theorem digit_le_nine {c : Char} (hc : c.isDigit = true) :
    '0'.toNat + digit c = c.toNat ∧ digit c ≤ 9 := by
  obtain ⟨hlow, hhigh⟩ := Char.isDigit_iff_toNat.1 hc
  have hnine : '9'.toNat = '0'.toNat + 9 := rfl
  unfold digit
  omega

theorem signedWrapped_eq_ofInt (hs : IsSign sign) (hd : Digits ds) (width : Nat) :
    signedWrapped width (sign ++ ds) = BitVec.ofInt width (number sign ds) := by
  have hnat : wrapped width ds = BitVec.ofInt width (Nat.ofDigitChars 10 ds 0 : Nat) := by
    rw [wrapped_eq_ofNat, BitVec.ofInt_natCast]
  rcases hs with rfl | rfl | rfl
  · exact (signedWrapped_of_digits hd width).trans hnat
  · exact hnat
  · rw [number, if_pos rfl, BitVec.ofInt_neg, ← hnat]
    rfl

theorem toInt_signedWrapped (hs : IsSign sign) (hd : Digits ds) (width : Nat) :
    (signedWrapped width (sign ++ ds)).toInt ≡ number sign ds [ZMOD 2 ^ width] := by
  have hmod : ((number sign ds).bmod (2 ^ width)) % (2 ^ width : Nat) =
      number sign ds % (2 ^ width : Nat) := Int.bmod_emod
  rw [Nat.cast_pow] at hmod
  rw [signedWrapped_eq_ofInt hs hd, BitVec.toInt_ofInt]
  exact hmod

/-! ## Written integers -/

theorem signOf_natCast (n : Nat) : signOf n = [] := if_neg (Int.not_lt.2 (Int.natCast_nonneg n))

theorem padded_zero (n : Int) : padded 0 n = writeInt n := by
  unfold padded signOf writeInt
  split <;> rfl

theorem padded_zero_natCast (n : Nat) : padded 0 n = write n := by
  rw [padded, signOf_natCast]
  rfl

theorem numeral_padded (zeros : Nat) (n : Int) (hrest : NoDigitAhead rest) :
    Numeral (padded zeros n ++ rest) (signOf n) (paddedDigits zeros n) where
  isSign := by
    unfold signOf
    split
    · exact .inr (.inr rfl)
    · exact .inl rfl
  digits := by
    intro c hc
    rcases List.mem_append.1 hc with hc | hc
    · rw [List.eq_of_mem_replicate hc]
      rfl
    · exact digits_write _ c hc
  ne_nil := List.append_ne_nil_of_right_ne_nil _ (write_ne_nil _)
  exists_rest := ⟨rest, List.append_assoc _ _ _, hrest⟩

theorem ofDigitChars_paddedDigits (zeros : Nat) (n : Int) :
    Nat.ofDigitChars 10 (paddedDigits zeros n) 0 = n.natAbs := by
  rw [paddedDigits, Nat.ofDigitChars_append, Nat.ofDigitChars_replicate_zero, Nat.mul_zero,
    ofDigitChars_write]

theorem number_padded (zeros : Nat) (n : Int) : number (signOf n) (paddedDigits zeros n) = n := by
  unfold number signOf
  rw [ofDigitChars_paddedDigits]
  split
  · simp only [if_pos]
    omega
  · simp only [List.ne_cons_self, if_false]
    omega

end

end Text.Decimal

/-! ## Readers -/

namespace Reader

open Decimal

section
variable {width : Nat} {input rest : Cursor} {sign ds : List Char} {v : Reading (BitVec width)}

/-- **An unsigned integer is read just where digits stand,** and takes all of them. -/
theorem read?_unsigned_eq_some_iff :
    (unsigned width).read? input = some v ↔
      ∃ ds, Numeral input [] ds ∧ v = ⟨wrapped width ds, ds.length⟩ := by
  constructor
  · intro h
    rw [read?_unsigned] at h
    split at h
    · cases h
    · rename_i hne
      cases h
      refine ⟨_, numeral_of_digitRun (.inl rfl) hne, ?_⟩
      rw [List.length_take_of_le (digitRun_le_length input)]
  · rintro ⟨ds, ⟨-, hd, hne, rest, rfl, hrest⟩, rfl⟩
    exact read?_unsigned_append hd hne hrest width

/-- **A signed integer is read just where a numeral stands,** and takes the whole of it. -/
theorem read?_signed_eq_some_iff :
    (signed width).read? input = some v ↔ ∃ sign ds, Numeral input sign ds ∧
      v = ⟨signedWrapped width (sign ++ ds), (sign ++ ds).length⟩ := by
  constructor
  · intro h
    rw [read?_signed] at h
    split at h
    · cases h
    · rename_i hne
      cases h
      -- a sign alone is no run, so there are digits behind it
      have hrun : signedRun input =
          signLength input + digitRun (input.drop (signLength input)) ∧
            digitRun (input.drop (signLength input)) ≠ 0 := by
        rw [signedRun_eq] at hne ⊢
        split at hne
        · exact absurd rfl hne
        · rename_i hd
          rw [if_neg hd]
          exact ⟨rfl, hd⟩
      have hnum := numeral_of_digitRun (isSign_take_signLength input) hrun.2
      rw [List.take_append_drop] at hnum
      refine ⟨_, _, hnum, ?_⟩
      rw [← List.take_add, ← hrun.1, List.length_take_of_le (signedRun_le_length input)]
  · rintro ⟨sign, ds, ⟨hs, hd, hne, rest, rfl, hrest⟩, rfl⟩
    rw [← List.append_assoc]
    exact read?_signed_append hs hd hne hrest width

theorem read?_unsigned_ne_none_iff :
    (unsigned width).read? input ≠ none ↔ ∃ c rest, input = c :: rest ∧ c.isDigit = true := by
  rw [Option.ne_none_iff_exists']
  constructor
  · rintro ⟨v, hv⟩
    obtain ⟨ds, hnum, -⟩ := read?_unsigned_eq_some_iff.1 hv
    exact (exists_numeral_iff.1 ⟨ds, hnum⟩).2
  · intro hdigit
    obtain ⟨ds, hnum⟩ := exists_numeral_iff.2 ⟨.inl rfl, hdigit⟩
    exact ⟨_, read?_unsigned_eq_some_iff.2 ⟨ds, hnum, rfl⟩⟩

theorem read?_signed_ne_none_iff :
    (signed width).read? input ≠ none ↔
      ∃ sign c rest, IsSign sign ∧ input = sign ++ c :: rest ∧ c.isDigit = true := by
  rw [Option.ne_none_iff_exists']
  constructor
  · rintro ⟨v, hv⟩
    obtain ⟨sign, ds, hnum, -⟩ := read?_signed_eq_some_iff.1 hv
    obtain ⟨hs, c, rest, hdigit⟩ := exists_numeral_iff.1 ⟨ds, hnum⟩
    exact ⟨sign, c, rest, hs, hdigit⟩
  · rintro ⟨sign, c, rest, hs, hdigit⟩
    obtain ⟨ds, hnum⟩ := exists_numeral_iff.2 ⟨hs, c, rest, hdigit⟩
    exact ⟨_, read?_signed_eq_some_iff.2 ⟨sign, ds, hnum, rfl⟩⟩

theorem read?_unsigned_padded (n : BitVec width) (zeros : Nat) (hrest : NoDigitAhead rest) :
    (unsigned width).read? (padded zeros n.toNat ++ rest) =
      some ⟨n, (padded zeros n.toNat).length⟩ := by
  have hnum := numeral_padded zeros n.toNat hrest
  rw [signOf_natCast] at hnum
  refine read?_unsigned_eq_some_iff.2 ⟨_, hnum, ?_⟩
  rw [wrapped_eq_ofNat, ofDigitChars_paddedDigits, Int.natAbs_natCast, BitVec.ofNat_toNat,
    BitVec.setWidth_eq, padded, signOf_natCast, List.nil_append]

theorem read?_signed_padded (n : BitVec width) (zeros : Nat) (hrest : NoDigitAhead rest) :
    (signed width).read? (padded zeros n.toInt ++ rest) =
      some ⟨n, (padded zeros n.toInt).length⟩ := by
  have hnum := numeral_padded zeros n.toInt hrest
  refine read?_signed_eq_some_iff.2 ⟨_, _, hnum, ?_⟩
  rw [signedWrapped_eq_ofInt hnum.isSign hnum.digits, number_padded, BitVec.ofInt_toInt]
  rfl

end

/-- **Integers are read exactly,** in each width. An unsigned integer is read just where a digit
comes first, a signed one where a digit follows a sign or none. All digits that there are belong to
it, each stands for a number from 0 to 9, and the value is the number of the whole modulo
`2 ^ width`, in two's complement where there is a sign. How much is read does not depend on the
width. What a value is written as, with any number of zeros in front of its digits, is read as this
value wherever no digit follows. -/
theorem integers_exact (width : Nat) :
    (∀ input, (unsigned width).read? input ≠ none ↔
      ∃ c rest, input = c :: rest ∧ c.isDigit = true) ∧
    (∀ input v, (unsigned width).read? input = some v ↔ ∃ ds, Numeral input [] ds ∧
      v = ⟨wrapped width ds, ds.length⟩ ∧
      v.value.toNat = Nat.ofDigitChars 10 ds 0 % 2 ^ width) ∧
    (∀ input, (signed width).read? input ≠ none ↔
      ∃ sign c rest, IsSign sign ∧ input = sign ++ c :: rest ∧ c.isDigit = true) ∧
    (∀ input v, (signed width).read? input = some v ↔ ∃ sign ds, Numeral input sign ds ∧
      v = ⟨signedWrapped width (sign ++ ds), sign.length + ds.length⟩ ∧
      v.value.toInt ≡ number sign ds [ZMOD 2 ^ width]) ∧
    (∀ input sign ds, Numeral input sign ds →
      ∀ c ∈ ds, '0'.toNat + digit c = c.toNat ∧ digit c ≤ 9) ∧
    (∀ input other,
      Reading.lengthOf ((unsigned width).read? input) =
        Reading.lengthOf ((unsigned other).read? input) ∧
      Reading.lengthOf ((signed width).read? input) =
        Reading.lengthOf ((signed other).read? input)) ∧
    (∀ (n : BitVec width) (zeros : Nat) (rest : Cursor), NoDigitAhead rest →
      (unsigned width).read? (padded zeros n.toNat ++ rest) =
        some ⟨n, (padded zeros n.toNat).length⟩ ∧
      (signed width).read? (padded zeros n.toInt ++ rest) =
        some ⟨n, (padded zeros n.toInt).length⟩) := by
  refine ⟨fun input => read?_unsigned_ne_none_iff, fun input v => ?_,
    fun input => read?_signed_ne_none_iff, fun input v => ?_,
    fun input sign ds hnum c hc => digit_le_nine (hnum.digits c hc),
    fun input other => ⟨(lawful_unsigned width).lengthOf_eq (lawful_unsigned other) rfl input,
      (lawful_signed width).lengthOf_eq (lawful_signed other) rfl input⟩,
    fun n zeros rest hrest => ⟨read?_unsigned_padded n zeros hrest,
      read?_signed_padded n zeros hrest⟩⟩
  · rw [read?_unsigned_eq_some_iff]
    refine exists_congr fun ds => and_congr_right fun hnum => ?_
    refine (and_iff_left_of_imp ?_).symm
    rintro rfl
    exact toNat_wrapped width ds
  · rw [read?_signed_eq_some_iff]
    refine exists_congr fun sign => exists_congr fun ds => and_congr_right fun hnum => ?_
    rw [List.length_append]
    refine (and_iff_left_of_imp ?_).symm
    rintro rfl
    exact toInt_signedWrapped hnum.isSign hnum.digits width

/-- The least value of eight bits is read back, with zeros between the sign and the digits. -/
theorem integers_exact_least_value :
    padded 2 (-128) = "-00128".toList ∧ NoDigitAhead ['.'] ∧
      (signed 8).read? (padded 2 (-128) ++ ['.']) = some ⟨-128, 6⟩ := by
  have hrest : NoDigitAhead ['.'] := by
    rintro c ⟨⟩
    rfl
  obtain ⟨-, -, -, -, -, -, hread⟩ := integers_exact 8
  exact ⟨by decide, hrest, (hread (-128) 2 ['.'] hrest).2⟩

/-- What is too large wraps, and a sign is not for unsigned integers. -/
example : (signed 8).read? "+300".toList = some ⟨44, 4⟩ ∧
    (unsigned 8).read? "300.".toList = some ⟨44, 3⟩ ∧ (unsigned 8).read? "+3".toList = none := by
  decide

end Reader

end TypedExtraction
