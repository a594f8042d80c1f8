import CommandGrammar.Text.Ranges

/-! White space in the Unicode sense, and cutting it off the ends of a text. -/

namespace CommandGrammar.Text

/-- The 25 code points with the property White_Space. -/
def blankRanges : Ranges :=
  [(0x09, 0x0D), (0x20, 0x20), (0x85, 0x85), (0xA0, 0xA0), (0x1680, 0x1680), (0x2000, 0x200A),
   (0x2028, 0x2029), (0x202F, 0x202F), (0x205F, 0x205F), (0x3000, 0x3000)]

def isBlank (c : Char) : Bool := blankRanges.contains c.toNat

/-- The list without the longest tail whose elements all satisfy the predicate. -/
def dropTrailing (p : Char → Bool) : List Char → List Char
  | [] => []
  | c :: cs =>
    match dropTrailing p cs with
    | [] => if p c then [] else [c]
    | kept => c :: kept

def trimEnd (text : String) : String := String.ofList (dropTrailing isBlank text.toList)

end CommandGrammar.Text
