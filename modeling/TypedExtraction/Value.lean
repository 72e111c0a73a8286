import TypedExtraction.Reader
import TypedExtraction.Text.Escaped

/-!
# Values

The six kinds of values that can be asked for by name, and the values
themselves. Names are looked up without regard to ASCII case; each kind has
one canonical name, and some have further ones. `Kind.reader` finds the values
of a kind, and `Value.display` is the form in which a value is shown.
-/

namespace TypedExtraction

open Text

inductive Kind where
  | char
  | str
  | unsigned
  | signed
  | bool
  | tail
  deriving DecidableEq, Repr

namespace Kind

def name : Kind → String
  | .char => "char"
  | .str => "str"
  | .unsigned => "uint"
  | .signed => "int"
  | .bool => "bool"
  | .tail => "tail"

/-- Every accepted name with its kind, in the order of the names. -/
def names : List (String × Kind) :=
  [("bool", .bool), ("char", .char), ("i64", .signed), ("int", .signed), ("rest", .tail),
    ("str", .str), ("string", .str), ("tail", .tail), ("u64", .unsigned), ("uint", .unsigned)]

/-- The kind with a given name, whatever the case of its ASCII letters. -/
def ofName? (name : String) : Option Kind := names.lookup name.toLower

end Kind

inductive Value where
  | char (c : Char)
  | str (text : String)
  | unsigned (n : BitVec 64)
  | signed (n : BitVec 64)
  | bool (b : Bool)
  | tail (text : String)
  deriving DecidableEq, Repr

namespace Value

def kind : Value → Kind
  | .char _ => .char
  | .str _ => .str
  | .unsigned _ => .unsigned
  | .signed _ => .signed
  | .bool _ => .bool
  | .tail _ => .tail

def display : Value → String
  | .char c => Escaped.ofChar c
  | .str text => Escaped.ofString text
  | .unsigned n => String.ofList (Decimal.write n.toNat)
  | .signed n => String.ofList (Decimal.writeInt n.toInt)
  | .bool b => if b then "true" else "false"
  | .tail text => text

end Value

def Kind.reader : Kind → Reader Value
  | .char => Reader.char.map .char
  | .str => (Reader.quoted '"').map .str
  | .unsigned => (Reader.unsigned 64).map .unsigned
  | .signed => (Reader.signed 64).map .signed
  | .bool => Reader.bool.map .bool
  | .tail => Reader.rest.map .tail

end TypedExtraction
