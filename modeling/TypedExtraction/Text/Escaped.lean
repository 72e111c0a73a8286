import TypedExtraction.Text.Extending
import TypedExtraction.Text.Unprintable

/-!
# Escaped text

The written form of a character or a text in which every character can be
told from every other: it stands between two delimiters, the common controls
have short escapes, the delimiter and the backslash have a backslash in front,
and a character that is extending or unprintable is given by its code point
in hexadecimal.
-/

namespace TypedExtraction.Text.Escaped

/-- The code point of a character between braces, in hexadecimal. -/
def codePoint (c : Char) : List Char :=
  ['\\', 'u', '{'] ++ Nat.toDigits 16 c.toNat ++ ['}']

def unit (delimiter c : Char) : List Char :=
  if c = '\x00' then ['\\', '0']
  else if c = '\t' then ['\\', 't']
  else if c = '\r' then ['\\', 'r']
  else if c = '\n' then ['\\', 'n']
  else if c = delimiter ∨ c = '\\' then ['\\', c]
  else if isExtending c || isUnprintable c then codePoint c
  else [c]

def enclose (delimiter : Char) (text : List Char) : List Char :=
  delimiter :: (text.flatMap (unit delimiter) ++ [delimiter])

def ofChar (c : Char) : String := String.ofList (enclose '\'' [c])

def ofString (text : String) : String := String.ofList (enclose '"' text.toList)

end TypedExtraction.Text.Escaped
