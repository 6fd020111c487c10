import EntityForge.Text.Utf8

/-! # Paths

A path text is read from left to right, segment by segment; nothing is simplified before it is
walked. A path in a store is the list of names from the root. A name need not be text, and then the
text of the path only shows it.

* `segments`: the parts of a path text between its slashes.
* `joinPath`: a path text below another; an absolute one stands for itself.
* `parentPath?`: the path text of the enclosing directory.
* `Path`: a place in a store, `Path.text` its text. -/

namespace EntityForge

/-- A text cut at every slash. -/
def splitSlash : List Char → List (List Char)
  | [] => [[]]
  | c :: cs =>
    if c = '/' then [] :: splitSlash cs
    else
      match splitSlash cs with
      | [] => [[c]]
      | part :: parts => (c :: part) :: parts

theorem splitSlash_ne_nil (cs : List Char) : splitSlash cs ≠ [] := by
  rcases cs with _ | ⟨c, cs⟩
  · exact List.cons_ne_nil _ _
  · rw [splitSlash]
    split
    · exact List.cons_ne_nil _ _
    · split <;> exact List.cons_ne_nil _ _

/-- **The parts of a path text** between its slashes. -/
def segments (path : String) : List String :=
  (splitSlash path.toList).map String.ofList

/-- Whether a path text starts at the root. -/
def isAbsolute (path : String) : Bool :=
  path.toList.head? = some '/'

/-- **A path text below another.** An absolute path replaces the base. -/
def joinPath (base path : String) : String :=
  if isAbsolute path then path
  else if base = "" ∨ base.toList.getLast? = some '/' then base ++ path
  else base ++ "/" ++ path

/-- The segments that name something: not empty, and not the current directory except at the very
start of a relative path. -/
def namedSegments (path : String) : List String :=
  let parts := segments path
  let named := parts.filter fun s => s ≠ "" ∧ s ≠ "."
  if parts.head? = some "." then "." :: named else named

/-- **The path text of the enclosing directory.** The root and the empty path have none. -/
def parentPath? (path : String) : Option String :=
  match namedSegments path with
  | [] => none
  | parts => some ((if isAbsolute path then "/" else "") ++ "/".intercalate parts.dropLast)

/-- **A place in a store:** the names from the root. -/
abbrev Path := List Octets

/-- The text of a path, as it is shown. -/
def Path.text (p : Path) : String :=
  "/" ++ "/".intercalate (p.map Octets.shown)

end EntityForge
