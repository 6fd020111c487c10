import EntityForge.Fault
import EntityForge.Text.Blank
import EntityForge.Text.Width

/-! # Source excerpts

An error is shown with the source lines it concerns. The numbers of the span are taken as character
offsets here. One line is underlined, with the message at the end of an arrow from the middle of the
span; several lines are joined by a bracket along the margin, and the message stands at its end.

* `Excerpt.splitVisual`: the lines as an editor shows them.
* `Excerpt.lineAt?`: the line of an offset.
* `Excerpt.location?`: the line and column named above the excerpt.
* `Excerpt.render`: the whole report of an error. -/

namespace EntityForge.Excerpt

/-! ### Lines -/

/-- The characters that end a line. -/
def isLineEnd (c : Char) : Bool :=
  [0xA, 0xB, 0xC, 0xD, 0x85, 0x2028, 0x2029].contains c.toNat

/-- The text cut after every line end; a carriage return and a line feed are one end. -/
def splitVisual : List Char → List (List Char)
  | [] => []
  | '\r' :: '\n' :: cs => ['\r', '\n'] :: splitVisual cs
  | c :: cs =>
    if isLineEnd c then [c] :: splitVisual cs
    else
      match splitVisual cs with
      | [] => [[c]]
      | line :: lines => (c :: line) :: lines

/-- **A line** with its number, counted from zero, and the offset of its first character. -/
structure Line where
  index : Nat
  start : Nat
  text : List Char
  deriving DecidableEq, Repr

/-- The offset right after a line and its end. -/
def Line.stop (l : Line) : Nat :=
  l.start + l.text.length

/-- The characters that are drawn: all but the blanks at the end. -/
def Line.shown (l : Line) : List Char :=
  Text.trimEnd l.text

/-- Numbers lines from a given index and offset. -/
def placeLines (index start : Nat) : List (List Char) → List Line
  | [] => []
  | text :: rest => ⟨index, start, text⟩ :: placeLines (index + 1) (start + text.length) rest

/-- **The lines of a source.** An empty source has one empty line. -/
def sourceLines (cs : List Char) : List Line :=
  match placeLines 0 0 (splitVisual cs) with
  | [] => [⟨0, 0, []⟩]
  | lines => lines

/-- **The line of an offset:** the last one that starts there or before. -/
def lineAt? (cs : List Char) (offset : Nat) : Option Line :=
  if cs.length < offset then none
  else ((sourceLines cs).filter (·.start ≤ offset)).getLast?

/-- The lines of the first and the last character of a span. An empty span has one line. -/
def linesOf? (cs : List Char) (span : Span) : Option (Line × Line) := do
  let first ← lineAt? cs span.start
  let last ← if span.start = span.stop then pure first else lineAt? cs (span.stop - 1)
  pure (first, last)

/-- The span with its ends inside a source of `size` bytes, and in order. -/
def clampSpan (size : Nat) (span : Span) : Span :=
  let start := min span.start size
  ⟨start, max start (min span.stop size)⟩

/-- The line and column of a span that starts in a given line, counted from one. -/
def Line.locate (l : Line) (span : Span) : Position :=
  ⟨l.index + 1, span.start - l.start + 1⟩

/-- **The line and column named above the excerpt,** if there is one. -/
def location? (source : String) (span : Span) : Option Position :=
  let span := clampSpan (byteLength source.toList) span
  (linesOf? source.toList span).map fun (first, _) => first.locate span

/-! ### Colours -/

/-- A text in a colour. -/
def paint (code text : String) : String :=
  "\x1b[" ++ code ++ "m" ++ text ++ "\x1b[0m"

/-- The colour of the frame. -/
def frame (text : String) : String :=
  paint "38;5;246" text

/-- The colour of the margin beside lines that are not numbered. -/
def margin (text : String) : String :=
  paint "38;5;240" text

/-- The colour of source text outside the span. -/
def plain (text : String) : String :=
  paint "38;5;249" text

/-- The colour of the span. -/
def marked (text : String) : String :=
  paint "31" text

/-- A text written several times. -/
def times (n : Nat) (text : String) : String :=
  String.join (List.replicate n text)

/-- So many spaces. -/
def spaces (n : Nat) : String :=
  times n " "

/-! ### Columns -/

/-- The width of a character in a given column: a tab reaches the next multiple of four. -/
def charWidth (c : Char) (column : Nat) : Nat :=
  if c = '\t' then 4 - column % 4
  else if Text.isBlank c then 1
  else Text.columns c

/-- The width of a column of a line; a column beyond the drawn text has one. -/
def Line.width (l : Line) (column : Nat) : Nat :=
  match l.shown[column]? with
  | some c => charWidth c column
  | none => 1

/-- The width of the first `n` columns of a line. -/
def Line.totalWidth (l : Line) : Nat → Nat
  | 0 => 0
  | n + 1 => l.totalWidth n + l.width n

/-- Whether an offset lies in a span. -/
def inSpan (span : Span) (offset : Nat) : Bool :=
  span.start ≤ offset && offset < span.stop

/-- One character as drawn: a tab as spaces, any other blank as one space. -/
def drawChar (color : String → String) (c : Char) (column : Nat) : String :=
  if c = '\t' then times (charWidth c column) (color " ")
  else if Text.isBlank c then color " "
  else color c.toString

/-- **The text of a line,** each character in its colour. -/
def Line.draw (l : Line) (span : Span) : String :=
  String.join (l.shown.zipIdx.map fun (c, column) =>
    drawChar (if inSpan span (l.start + column) then marked else plain) c column)

/-- A mark followed by a filling, as wide as a column. -/
def fill (width : Nat) (mark filling : String) : String :=
  match width with
  | 0 => ""
  | n + 1 => mark ++ times n filling

/-- The underline below one column; the arrow starts in the column `mid`. -/
def underline (l : Line) (span : Span) (mid column : Nat) : String :=
  let inside := inSpan span (l.start + column)
  if column = mid then
    if inside then fill (l.width column) (marked "┬") (marked "─")
    else fill (l.width column) (marked "│") (marked " ")
  else times (l.width column) (if inside then marked "─" else " ")

/-- The arrow below one column. -/
def arrow (l : Line) (mid column : Nat) : String :=
  if column = mid then fill (l.width column) (marked "╰") (marked "─")
  else times (l.width column) (if mid < column then marked "─" else " ")

/-! ### Rows -/

/-- The left edge of a numbered line, numbers being `digits` wide. -/
def numbered (digits : Nat) (l : Line) : String :=
  let number := toString (l.index + 1)
  " " ++ frame (spaces (digits - number.length) ++ number ++ " │") ++ " "

/-- The left edge of a line without a number. -/
def unnumbered (digits : Nat) : String :=
  " " ++ margin (spaces (digits + 1) ++ "│") ++ " "

/-- **The rows for a span within one line.** A span that goes beyond the line is not drawn. -/
def singleRows (digits : Nat) (l : Line) (span : Span) (message : String) : List String :=
  if l.stop < span.stop then [unnumbered digits]
  else
    let mid := (span.start + span.stop) / 2 - l.start
    let columns := List.range (span.stop - l.start + 2)
    [numbered digits l ++ l.draw span,
      unnumbered digits ++ String.join (columns.map (underline l span mid)),
      unnumbered digits ++ String.join (columns.map (arrow l mid)) ++ " " ++ message]

/-- The arrow from the bracket along the margin, which turns or branches here, to a line. -/
def pointer (corner : String) : String :=
  marked corner ++ marked "─" ++ marked "▶" ++ marked " "

/-- The row that stands for lines left out. -/
def omitted (digits : Nat) : String :=
  " " ++ margin (spaces (digits + 1) ++ "┆") ++ " " ++ marked "┆" ++ spaces 3

/-- The rows for the last line of a span, with the message below. -/
def closingRows (digits : Nat) (last : Line) (span : Span) (message : String) : List String :=
  let total := last.totalWidth (last.text.length + 2)
  [numbered digits last ++ pointer "├" ++ last.draw span,
    unnumbered digits ++ marked "│" ++ spaces 3 ++ spaces total,
    unnumbered digits ++ marked "╰" ++ times (3 + total) (marked "─") ++ " " ++ message]

/-- **The rows for a span over several lines.** Lines in between are left out, and so is the last
line, with the message, if the span goes beyond it. -/
def spanningRows (digits : Nat) (first last : Line) (span : Span) (message : String) :
    List String :=
  [numbered digits first ++ pointer "╭" ++ first.draw span]
    ++ (if last.stop < span.stop then [omitted digits]
      else (if first.index + 1 < last.index then [omitted digits] else [])
        ++ closingRows digits last span message)

/-- The rows of an excerpt below its headline. -/
def rows (name : String) (first last : Line) (span : Span) (message : String) : List String :=
  let digits := (toString (last.index + 1)).length
  let place := first.locate span
  let address := name ++ ":" ++ toString place.line ++ ":" ++ toString place.column
  [spaces (digits + 2) ++ frame "╭" ++ frame "─" ++ frame "[" ++ " " ++ address ++ " " ++ frame "]",
      spaces (digits + 2) ++ frame "│"]
    ++ (if first.index = last.index then singleRows digits first span message
      else spanningRows digits first last span message)
    ++ [frame (times (digits + 2) "─" ++ "╯")]

/-- **The report of an error** in a named source. A span that lies nowhere in the source leaves the
headline alone. -/
def render (source name : String) (e : SourceError) : String :=
  let span := clampSpan (byteLength source.toList) e.span
  let headline := marked "Error:" ++ " " ++ e.display
  let below :=
    match linesOf? source.toList span with
    | some (first, last) => rows name first last span e.message
    | none => []
  String.join ((headline :: below).map (· ++ "\n"))

end EntityForge.Excerpt
