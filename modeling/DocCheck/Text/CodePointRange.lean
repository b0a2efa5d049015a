/-!
Sets of characters given by closed ranges of code points, the form in which the classes of the
Unicode character database are tabulated here.
-/

namespace DocCheck.Text

/-- A closed range of code points. -/
abbrev CodePointRange := Nat × Nat

def inRanges (ranges : List CodePointRange) (codePoint : Nat) : Bool :=
  ranges.any fun range => range.1 ≤ codePoint && codePoint ≤ range.2

end DocCheck.Text
