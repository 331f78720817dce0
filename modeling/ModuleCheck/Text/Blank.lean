import ModuleCheck.Text.Range

namespace ModuleCheck

/-!
White space, as the Unicode property of that name has it, and its removal from the end of a
text.
-/

namespace Text

/-- The code points with the property White_Space, as closed intervals in ascending order. -/
def blankRanges : List (Nat × Nat) :=
  [ (0x0009, 0x000D), (0x0020, 0x0020), (0x0085, 0x0085), (0x00A0, 0x00A0), (0x1680, 0x1680),
    (0x2000, 0x200A), (0x2028, 0x2029), (0x202F, 0x202F), (0x205F, 0x205F), (0x3000, 0x3000) ]

def isBlank (c : Char) : Bool := within blankRanges c

/-- The text without the white space at its end. -/
def trimEnd (text : List Char) : List Char := (text.reverse.dropWhile isBlank).reverse

end Text

end ModuleCheck
