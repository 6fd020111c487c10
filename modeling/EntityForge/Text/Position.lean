import EntityForge.Text.Span

/-! # Line and column

The address of a byte offset as people count: lines from one, ended by line feeds, and columns from
one, in characters.

* `takeBytes`: the characters that lie wholly within the first bytes of a text.
* `Position.ofOffset`: the address of an offset. An offset beyond the end counts as the end, and one
  inside a character as the first byte of that character. -/

namespace EntityForge

/-- **The longest initial part** of at most `n` bytes. -/
def takeBytes : Nat → List Char → List Char
  | _, [] => []
  | n, c :: cs => if c.utf8Size ≤ n then c :: takeBytes (n - c.utf8Size) cs else []

/-- **A line and a column,** both counted from one. -/
structure Position where
  line : Nat
  column : Nat
  deriving DecidableEq, Repr, Inhabited

/-- The position right after the given characters. -/
def Position.after (before : List Char) : Position where
  line := 1 + before.count '\n'
  column := 1 + (before.reverse.takeWhile (· ≠ '\n')).length

/-- **The position of a byte offset** in a text. -/
def Position.ofOffset (source : String) (offset : Nat) : Position :=
  Position.after (takeBytes offset source.toList)

end EntityForge
