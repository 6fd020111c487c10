import EntityForge.Text.Printable

/-! # Texts quoted for a reader

How a diagnostic shows a text: in double quotes, with every character that would not be seen, or
that would join the one before it, written as an escape.

* `escapeChar`: one character as it is shown.
* `quoted`: a whole text. -/

namespace EntityForge.Text

/-- The escape of a character by its number, in lower-case hexadecimal. -/
def numberEscape (c : Char) : String :=
  "\\u\x7b" ++ String.ofList (Nat.toDigits 16 c.toNat) ++ "\x7d"

/-- **One character** of a quoted text. -/
def escapeChar (c : Char) : String :=
  if c = '"' then "\\\""
  else if c = '\\' then "\\\\"
  else if c = '\n' then "\\n"
  else if c = '\r' then "\\r"
  else if c = '\t' then "\\t"
  else if c = Char.ofNat 0 then "\\0"
  else if isExtending c || isHidden c then numberEscape c
  else c.toString

/-- **A text in double quotes.** -/
def quoted (s : String) : String :=
  "\"" ++ String.join (s.toList.map escapeChar) ++ "\""

end EntityForge.Text
