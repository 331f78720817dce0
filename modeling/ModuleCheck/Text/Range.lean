namespace ModuleCheck

/-!
Sets of characters, given by intervals of code points.
-/

namespace Text

/-- Whether the code point of `c` lies in one of the closed intervals. -/
def within (ranges : List (Nat × Nat)) (c : Char) : Bool :=
  ranges.any fun range => range.1 ≤ c.toNat && c.toNat ≤ range.2

end Text

end ModuleCheck
