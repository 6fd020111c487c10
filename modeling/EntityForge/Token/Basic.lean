import EntityForge.Text.Quoted

/-! # Tokens

The words and marks of a description. Keywords are ordinary words, so that they can serve as names;
a number keeps its spelling. -/

namespace EntityForge

/-- **A token:** punctuation, a quoted text, a number as spelled, or a word. -/
inductive Token where
  | lbrace
  | rbrace
  | lbracket
  | rbracket
  | colon
  | comma
  | str (content : String)
  | number (spelling : String)
  | word (spelling : String)
  deriving DecidableEq, Repr, Inhabited

/-- A token as a diagnostic shows it. -/
def Token.display : Token → String
  | lbrace => "\x7b"
  | rbrace => "\x7d"
  | lbracket => "["
  | rbracket => "]"
  | colon => ":"
  | comma => ","
  | str content => Text.quoted content
  | number spelling => spelling
  | word spelling => spelling

/-- The punctuation mark that a character is. -/
def Token.ofMark? (c : Char) : Option Token :=
  if c = '\x7b' then some lbrace
  else if c = '\x7d' then some rbrace
  else if c = '[' then some lbracket
  else if c = ']' then some rbracket
  else if c = ':' then some colon
  else if c = ',' then some comma
  else none

end EntityForge
