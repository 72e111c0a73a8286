import TypedExtraction.Text.CodeRanges

/-!
# Blank characters

`isBlank` is the Unicode property `White_Space`; `trim` takes the blank
characters off both ends of a text.
-/

namespace TypedExtraction.Text

/-- The characters with the property `White_Space`. -/
def blankRanges : CodeRanges :=
  #[(0x9, 0xd), (0x20, 0x20), (0x85, 0x85), (0xa0, 0xa0), (0x1680, 0x1680), (0x2000, 0x200a),
    (0x2028, 0x2029), (0x202f, 0x202f), (0x205f, 0x205f), (0x3000, 0x3000)]

def isBlank (c : Char) : Bool := blankRanges.contains c

def trim (text : String) : String :=
  String.ofList ((text.toList.dropWhile isBlank).reverse.dropWhile isBlank).reverse

end TypedExtraction.Text
