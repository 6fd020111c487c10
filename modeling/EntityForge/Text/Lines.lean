/-! # Lines that keep their ends

A text is cut after every line feed. The pieces are never empty and their concatenation is the text;
only the last one may lack a line feed. -/

namespace EntityForge.Text

/-- **The lines of a text,** each with its line feed. -/
def splitLines : List Char → List (List Char)
  | [] => []
  | c :: cs =>
    if c = '\n' then [c] :: splitLines cs
    else
      match splitLines cs with
      | [] => [[c]]
      | line :: lines => (c :: line) :: lines

@[simp] theorem flatten_splitLines (cs : List Char) : (splitLines cs).flatten = cs := by
  induction cs with
  | nil => rfl
  | cons c cs ih =>
    rw [splitLines]
    split
    · simp [ih]
    · split <;> simp_all

/-- A line without its line feed. -/
def lineBody (line : List Char) : List Char :=
  if line.getLast? = some '\n' then line.dropLast else line

/-- The line feed of a line, if it has one. -/
def lineEnd (line : List Char) : List Char :=
  if line.getLast? = some '\n' then ['\n'] else []

theorem lineBody_append_lineEnd (line : List Char) : lineBody line ++ lineEnd line = line := by
  unfold lineBody lineEnd
  split
  · next h =>
    obtain ⟨body, rfl⟩ := List.getLast?_eq_some_iff.1 h
    simp
  · simp

end EntityForge.Text
