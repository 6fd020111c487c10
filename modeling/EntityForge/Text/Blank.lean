import EntityForge.Text.CodePoints

/-! # Blank characters

The characters with the Unicode property `White_Space`, and texts without the blanks at their
ends. -/

namespace EntityForge.Text

/-- Where the blank code points begin and end. -/
def blankMarks : List Nat :=
  [0x9, 0xE, 0x20, 0x21, 0x85, 0x86, 0xA0, 0xA1, 0x1680, 0x1681, 0x2000, 0x200B, 0x2028, 0x202A,
   0x202F, 0x2030, 0x205F, 0x2060, 0x3000, 0x3001]

/-- A blank character. -/
def isBlank (c : Char) : Bool :=
  inMarked blankMarks c.toNat

/-- The text without its leading blanks. -/
def trimStart (cs : List Char) : List Char :=
  cs.dropWhile isBlank

/-- The text without its trailing blanks. -/
def trimEnd (cs : List Char) : List Char :=
  (cs.reverse.dropWhile isBlank).reverse

end EntityForge.Text
