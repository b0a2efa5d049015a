import DocCheck.Text.CodePointRange

/-!
White space: the characters with the property `White_Space`, and the six of them that are ASCII.
-/

namespace DocCheck.Text

/-- The white space characters beyond ASCII. -/
def whiteRanges : List CodePointRange :=
  [(0x85, 0x85), (0xA0, 0xA0), (0x1680, 0x1680), (0x2000, 0x200A), (0x2028, 0x2029),
  (0x202F, 0x202F), (0x205F, 0x205F), (0x3000, 0x3000)]

/-- ASCII white space: tab, the four line break characters and the space. -/
def isAsciiWhite (c : Char) : Bool :=
  c = ' ' || (9 ≤ c.toNat && c.toNat ≤ 13)

def isWhite (c : Char) : Bool :=
  isAsciiWhite c || (128 ≤ c.toNat && inRanges whiteRanges c.toNat)

theorem isWhite_of_isAsciiWhite {c : Char} (ascii : isAsciiWhite c = true) :
    isWhite c = true := by
  simp [isWhite, ascii]

end DocCheck.Text
