import EntityForge.Literal
import EntityForge.Grammar.Machine

/-! # Reading literals

The grammar of literals: a number, a text, `true`, `false`, an object or an array, where objects and
arrays may end with a comma. The compound literals that are still open are kept as a stack of
frames, the innermost first.

* `LiteralState`: where the reading stands, `LiteralState.step` its next state.
* `LiteralState.expected`: what may come next.
* `literalReader`: the machine that reads exactly one literal. -/

namespace EntityForge

/-- **A compound literal that is still open** around the place of reading, what it holds so far
listed latest first. -/
inductive Frame where
  | array (elements : List Literal)
  | object (fields : List Property) (key : String)
  deriving Repr

/-- **Where the reading of a literal stands:** before a literal, inside an array before or after an
element, inside an object before a key, before its colon or after its value, or at the end. -/
inductive LiteralState where
  | value (outer : List Frame)
  | element (elements : List Literal) (outer : List Frame)
  | elementEnd (elements : List Literal) (outer : List Frame)
  | key (fields : List Property) (outer : List Frame)
  | colon (fields : List Property) (key : String) (outer : List Frame)
  | fieldEnd (fields : List Property) (outer : List Frame)
  | done (v : Literal)
  deriving Repr

namespace LiteralState

/-- The state after a complete literal. -/
def after (v : Literal) : List Frame → LiteralState
  | [] => .done v
  | .array elements :: outer => .elementEnd (v :: elements) outer
  | .object fields name :: outer => .fieldEnd ((name, v) :: fields) outer

/-- The state after the first token of a literal, if the token can start one. -/
def begin? (outer : List Frame) : Token → Option LiteralState
  | .number spelling => some (after (.number spelling) outer)
  | .str content => some (after (.string content) outer)
  | .word w =>
    if w = "true" then some (after (.boolean true) outer)
    else if w = "false" then some (after (.boolean false) outer)
    else none
  | .lbrace => some (.key [] outer)
  | .lbracket => some (.element [] outer)
  | _ => none

/-- **The next state,** if the token can go on the literal. -/
def step : LiteralState → Token → Option LiteralState
  | .value outer, t => begin? outer t
  | .element elements outer, .rbracket => some (after (.array elements.reverse) outer)
  | .element elements outer, t => begin? (.array elements :: outer) t
  | .elementEnd elements outer, .comma => some (.element elements outer)
  | .elementEnd elements outer, .rbracket => some (after (.array elements.reverse) outer)
  | .key fields outer, .word k => some (.colon fields k outer)
  | .key fields outer, .str k => some (.colon fields k outer)
  | .key fields outer, .rbrace => some (after (.object fields.reverse) outer)
  | .colon fields k outer, .colon => some (.value (.object fields k :: outer))
  | .fieldEnd fields outer, .comma => some (.key fields outer)
  | .fieldEnd fields outer, .rbrace => some (after (.object fields.reverse) outer)
  | _, _ => none

/-- **What may come next.** -/
def expected : LiteralState → List Label
  | .value _ => [.value]
  | .element _ _ => [.value, .mark .rbracket]
  | .elementEnd _ _ => [.mark .comma, .mark .rbracket]
  | .key _ _ => [.propertyName, .mark .rbrace]
  | .colon _ _ _ => [.mark .colon]
  | .fieldEnd _ _ => [.mark .comma, .mark .rbrace]
  | .done _ => [.endOfInput]

/-- The literal, once it is complete. -/
def result : LiteralState → Option Literal
  | .done v => some v
  | _ => none

end LiteralState

/-- **The reader of one literal.** -/
def literalReader : Machine LiteralState Literal where
  start := .value []
  step := fun s t => s.step t.val
  expected := LiteralState.expected
  result := LiteralState.result

end EntityForge
