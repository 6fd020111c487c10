/-! # Documents

Documents made of records, lists, texts and numbers, written as JSON: compact in one line, or
indented by two spaces a level.

* `Document`: a document.
* `Document.compact`, `Document.indented`: its two written forms. -/

namespace EntityForge

/-- **A document.** The fields of a record keep their order. -/
inductive Document where
  | null
  | bool (b : Bool)
  | number (n : Nat)
  | string (s : String)
  | list (items : List Document)
  | record (fields : List (String × Document))
  deriving Repr, Inhabited

namespace Document

/-! ### Texts -/

/-- The hexadecimal digit of a number below sixteen. -/
def hexDigit (n : Nat) : Char :=
  if n < 10 then Char.ofNat (48 + n) else Char.ofNat (87 + n)

/-- One character of a quoted text. -/
def quoteChar (c : Char) : List Char :=
  if c = '"' then ['\\', '"']
  else if c = '\\' then ['\\', '\\']
  else if c = '\n' then ['\\', 'n']
  else if c = '\r' then ['\\', 'r']
  else if c = '\t' then ['\\', 't']
  else if c = '\x08' then ['\\', 'b']
  else if c = '\x0c' then ['\\', 'f']
  else if c.toNat < 0x20 then
    ['\\', 'u', '0', '0', hexDigit (c.toNat / 16), hexDigit (c.toNat % 16)]
  else [c]

/-- A text in double quotes. -/
def quote (s : String) : String :=
  "\"" ++ String.ofList (s.toList.flatMap quoteChar) ++ "\""

/-- The name of a truth value. -/
def truth (b : Bool) : String :=
  if b then "true" else "false"

/-! ### Compact form -/

mutual
/-- **A document in one line,** without spaces. -/
def compact : Document → String
  | null => "null"
  | bool b => truth b
  | number n => toString n
  | string s => quote s
  | list items => "[" ++ ",".intercalate (compactItems items) ++ "]"
  | record fields => "\x7b" ++ ",".intercalate (compactFields fields) ++ "\x7d"

/-- The items of a list. -/
def compactItems : List Document → List String
  | [] => []
  | j :: js => compact j :: compactItems js

/-- The fields of a record. -/
def compactFields : List (String × Document) → List String
  | [] => []
  | (name, j) :: rest => (quote name ++ ":" ++ compact j) :: compactFields rest
end

/-! ### Indented form -/

/-- The indentation of a level. -/
def indentation (level : Nat) : String :=
  String.ofList (List.replicate (2 * level) ' ')

/-- Parts on lines of their own, inside the brackets `opening` and `closing`. -/
def block (opening closing : String) (level : Nat) (parts : List String) : String :=
  if parts = [] then opening ++ closing
  else
    opening ++ "\n"
      ++ ",\n".intercalate (parts.map fun part => indentation (level + 1) ++ part)
      ++ "\n" ++ indentation level ++ closing

mutual
/-- **A document on several lines,** for a given level of indentation. -/
def indentedAt (level : Nat) : Document → String
  | null => "null"
  | bool b => truth b
  | number n => toString n
  | string s => quote s
  | list items => block "[" "]" level (indentedItems level items)
  | record fields => block "\x7b" "\x7d" level (indentedFields level fields)

/-- The items of a list. -/
def indentedItems (level : Nat) : List Document → List String
  | [] => []
  | j :: js => indentedAt (level + 1) j :: indentedItems level js

/-- The fields of a record. -/
def indentedFields (level : Nat) : List (String × Document) → List String
  | [] => []
  | (name, j) :: rest =>
    (quote name ++ ": " ++ indentedAt (level + 1) j) :: indentedFields level rest
end

/-- A document on several lines. -/
def indented (j : Document) : String :=
  indentedAt 0 j

end Document

end EntityForge
