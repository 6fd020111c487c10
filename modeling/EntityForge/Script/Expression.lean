import EntityForge.Literal
import EntityForge.Token.Scan

/-! # Script expressions

Literals and property names as script text. Everything written here can be read back by the scanner
and the literal reader of this library.

* `Script.quote`: a text in single quotes.
* `Script.propertyName`: a property name, quoted only if it has to be.
* `Literal.render`: a literal, its parts on lines of their own. -/

namespace EntityForge

namespace Script

/-- Whether a name can stand unquoted: a letter, underscore or dollar sign, then such characters and
digits. -/
def isBareName (name : String) : Bool :=
  match name.toList with
  | [] => false
  | c :: cs => isWordStart c && cs.all isWordChar

/-- One character inside single quotes. -/
def quoteChar (c : Char) : List Char :=
  if c = '\\' then ['\\', '\\']
  else if c = '\'' then ['\\', '\'']
  else if c = '\n' then ['\\', 'n']
  else if c = '\r' then ['\\', 'r']
  else if c = '\t' then ['\\', 't']
  else [c]

/-- **A text in single quotes.** -/
def quote (s : String) : String :=
  "'" ++ String.ofList (s.toList.flatMap quoteChar) ++ "'"

/-- **A property name** in an object. -/
def propertyName (name : String) : String :=
  if isBareName name then name else quote name

/-- A property of an object: behind a dot, or quoted in brackets. -/
def member (object name : String) : String :=
  if isBareName name then object ++ "." ++ name else object ++ "[" ++ quote name ++ "]"

/-- An indentation. -/
def tabs (depth : Nat) : String :=
  String.ofList (List.replicate depth '\t')

/-- Lines with a comma between them. -/
def commaLines (lines : List String) : String :=
  ",\n".intercalate lines

end Script

open Script

mutual
/-- **A literal as script text.** The parts of a compound literal stand on lines of their own,
indented by `depth` tabs, and its closing bracket one tab less. -/
def Literal.render (depth : Nat) : Literal → String
  | .number spelling => spelling
  | .string content => quote content
  | .boolean truth => if truth then "true" else "false"
  | .object [] => "\x7b\x7d"
  | .object (f :: fs) =>
    "\x7b\n" ++ commaLines (Literal.fieldLines depth (f :: fs)) ++ "\n" ++ tabs (depth - 1)
      ++ "\x7d"
  | .array [] => "[]"
  | .array (e :: es) =>
    "[\n" ++ commaLines (Literal.elementLines depth (e :: es)) ++ "\n" ++ tabs (depth - 1) ++ "]"

/-- The lines of the fields of an object. -/
def Literal.fieldLines (depth : Nat) : List (String × Literal) → List String
  | [] => []
  | (name, v) :: rest =>
    (tabs depth ++ propertyName name ++ ": " ++ Literal.render (depth + 1) v)
      :: Literal.fieldLines depth rest

/-- The lines of the elements of an array. -/
def Literal.elementLines (depth : Nat) : List Literal → List String
  | [] => []
  | v :: rest => (tabs depth ++ Literal.render (depth + 1) v) :: Literal.elementLines depth rest
end

end EntityForge
