import EntityForge.Event

/-! # Reports as lines

Every event is one line, and a written factory one more for each of its functions. Warnings, errors
and the end of a build may be coloured.

* `Transcript.paint`: a text in a colour.
* `Transcript.render`: the text of one event. -/

namespace EntityForge.Transcript

/-- The sequence that ends a colour. -/
def reset : String :=
  "\x1b[0m"

/-- The sequence that starts a colour. -/
def colorStart (code : Nat) : String :=
  "\x1b[" ++ toString code ++ "m"

/-- The text with a colour started again after every place where a colour ends. -/
def restart (start : List Char) : List Char → List Char
  | '\x1b' :: '[' :: '0' :: 'm' :: cs => '\x1b' :: '[' :: '0' :: 'm' :: (start ++ restart start cs)
  | c :: cs => c :: restart start cs
  | [] => []

/-- **A text in a colour.** A colour that the text itself ends is started again. -/
def paint (colors : Bool) (code : Nat) (text : String) : String :=
  if colors then
    let start := colorStart code
    start ++ String.ofList (restart start.toList text.toList) ++ reset
  else text

/-- The code of red. -/
def red : Nat :=
  31

/-- The code of green. -/
def green : Nat :=
  32

/-- The code of yellow. -/
def yellow : Nat :=
  33

/-- What is said of a file that was kept. -/
def skipNote (skipped : Bool) : String :=
  if skipped then " (skipped)" else ""

/-- The lines of one event. -/
def lines (colors : Bool) : Event → List String
  | .warning message => [paint colors yellow message]
  | .malformed e => [paint colors red e.display]
  | .failed e => [paint colors red ("error: " ++ e.message)]
  | .rejected e => [paint colors red ("error: " ++ e.message)]
  | .component a skipped => ["Component:" ++ a.name ++ ":" ++ a.file ++ skipNote skipped]
  | .system a skipped => [a.label ++ ":" ++ a.name ++ ":" ++ a.file ++ skipNote skipped]
  | .factory a skipped =>
    ("Factory:" ++ a.file ++ skipNote skipped)
      :: if skipped then [] else a.creators.map fun f => "\t" ++ f.template ++ ":" ++ f.name
  | .completed project => [paint colors green ("'" ++ project ++ "' build completed")]

/-- **The text of one event.** -/
def render (colors : Bool) (e : Event) : String :=
  String.join ((lines colors e).map (· ++ "\n"))

end EntityForge.Transcript
