import EntityForge.Token.Basic

/-! # What a reader expects

A label names a kind of continuation. A message lists the labels of all continuations that were
possible where the reading stopped. -/

namespace EntityForge

/-- **A label** of what may come next. -/
inductive Label where
  | projectDeclaration
  | componentDeclaration
  | templateDeclaration
  | systemDeclaration
  | projectName
  | identifier
  | propertyName
  | value
  | keyword (spelling : String)
  | mark (t : Token)
  | endOfInput
  deriving DecidableEq, Repr

namespace Label

/-- The wording of a label. -/
def text : Label → String
  | projectDeclaration => "project declaration"
  | componentDeclaration => "component declaration"
  | templateDeclaration => "template declaration"
  | systemDeclaration => "system declaration"
  | projectName => "project name"
  | identifier => "identifier"
  | propertyName => "property name"
  | value => "value"
  | keyword spelling => spelling
  | mark t => "'" ++ t.display ++ "'"
  | endOfInput => "end of input"

/-- Whether a token starts a continuation of this label. -/
def describes : Label → Token → Bool
  | projectDeclaration, .word w => w = "project"
  | componentDeclaration, .word w => w = "component"
  | templateDeclaration, .word w => w = "template"
  | systemDeclaration, .word w => w = "system"
  | projectName, .word _ | projectName, .str _ => true
  | identifier, .word _ => true
  | propertyName, .word _ | propertyName, .str _ => true
  | value, .number _ | value, .str _ | value, .lbrace | value, .lbracket => true
  | value, .word w => w = "true" || w = "false"
  | keyword spelling, .word w => w = spelling
  | mark m, t => m = t
  | _, _ => false

/-- The wording of a list of labels: commas between them, and "or" before the last. -/
def listText : List Label → String
  | [] => ""
  | [l] => l.text
  | [l, m] => l.text ++ ", or " ++ m.text
  | l :: ls => l.text ++ ", " ++ listText ls

end Label

end EntityForge
