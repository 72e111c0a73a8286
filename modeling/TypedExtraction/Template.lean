/-!
# Templates

A `Template` is a text with gaps. Every occurrence of its joker is a gap that
a value fills; every other character stands for itself.
-/

namespace TypedExtraction

/-- A text in which one character marks the gaps. -/
structure Template where
  text : String
  joker : Char := '$'
  deriving DecidableEq, Repr

namespace Template

def chars (t : Template) : List Char := t.text.toList

def jokerCount (t : Template) : Nat := t.chars.count t.joker

end Template

end TypedExtraction
