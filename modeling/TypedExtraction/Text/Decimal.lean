import TypedExtraction.Text.Cursor

/-!
# Decimal numbers

Runs of ASCII digits, with or without a sign, and the number they stand for.
A number of a fixed width wraps at every digit, so a run of any length has a
value in each width. Writing is the plain decimal form, a minus sign in front
of a negative number.
-/

namespace TypedExtraction.Text.Decimal

def digitRun (c : Cursor) : Nat := (c.takeWhile Char.isDigit).length

def signLength (c : Cursor) : Nat :=
  match c.peek? with
  | some '+' | some '-' => 1
  | _ => 0

/-- The length of an optional sign and the digits behind it; without digits there is no number. -/
def signedRun (c : Cursor) : Nat :=
  match digitRun (c.advance (signLength c)) with
  | 0 => 0
  | digits => signLength c + digits

def digit (c : Char) : Nat := c.toNat - '0'.toNat

/-- The value of a run of digits in a width. -/
def wrapped (width : Nat) (digits : List Char) : BitVec width :=
  digits.foldl (fun n c => n * 10 + BitVec.ofNat width (digit c)) 0

/-- The value of a signed run of digits in a width. -/
def signedWrapped (width : Nat) : List Char → BitVec width
  | '-' :: digits => -wrapped width digits
  | '+' :: digits => wrapped width digits
  | digits => wrapped width digits

def write (n : Nat) : List Char := Nat.toDigits 10 n

def writeInt (n : Int) : List Char :=
  if n < 0 then '-' :: write n.natAbs else write n.natAbs

end TypedExtraction.Text.Decimal
