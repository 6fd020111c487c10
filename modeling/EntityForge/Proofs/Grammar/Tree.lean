import EntityForge.Grammar.Parse
import Mathlib.Data.List.Basic

/-! # Derivation trees

The grammar of descriptions, one type for each of its rules. A tree holds the spans of all tokens it
derives, so it is a derivation of one list of tokens, `tokens`, and it says what that list means.

* `Enclosed`: `'{' [a (',' a)* [',']] '}'`, with the brackets and the entries left open.
* `ValueTree`: a number, a text, `true`, `false`, an object or an array. It means a literal.
* `DeclarationTree`: a project, component, template or system. It means a declaration.
* `DescriptionTree`: any number of declarations. It means a program if it has one project.

Words are not divided into keywords and names: wherever a rule has a name, any word will do. -/

namespace EntityForge

/-- The token that a name is written as. -/
def Name.token (n : Name) : Located Token :=
  ⟨.word n.val, n.span⟩

/-! ### Lists with commas -/

/-- `a (',' a)* [',']`: an entry, further entries behind their commas, and perhaps a last comma. -/
structure CommaList (α : Type) where
  first : α
  others : List (Span × α)
  trailing : Option Span

/-- **A list in brackets:** `open [a (',' a)* [',']] close`. -/
structure Enclosed (α : Type) where
  opening : Span
  entries : Option (CommaList α)
  closing : Span

section Lists
variable {α : Type} (f : α → List (Located Token))

/-- A comma, if there is one. -/
def optionalComma (c : Option Span) : List (Located Token) :=
  c.toList.map fun span => ⟨.comma, span⟩

/-- Entries behind their commas. -/
def tokensBehindCommas (others : List (Span × α)) : List (Located Token) :=
  others.flatMap fun p => ⟨.comma, p.1⟩ :: f p.2

/-- The tokens of the entries of a list. -/
def CommaList.tokens (l : CommaList α) : List (Located Token) :=
  f l.first ++ (tokensBehindCommas f l.others ++ optionalComma l.trailing)

/-- The tokens between the brackets. -/
def tokensInside (entries : Option (CommaList α)) : List (Located Token) :=
  (entries.map (CommaList.tokens f)).getD []

/-- The tokens of a list between the brackets `left` and `right`. -/
def Enclosed.tokens (left right : Token) (e : Enclosed α) : List (Located Token) :=
  ⟨left, e.opening⟩ :: (tokensInside f e.entries ++ [⟨right, e.closing⟩])

/-- The entries of a list. -/
def CommaList.items (l : CommaList α) : List α :=
  l.first :: l.others.map Prod.snd

/-- The entries between the brackets. -/
def itemsInside (entries : Option (CommaList α)) : List α :=
  (entries.map CommaList.items).getD []

/-- The entries of a list in brackets. -/
def Enclosed.items (e : Enclosed α) : List α :=
  itemsInside e.entries

@[simp] theorem optionalComma_none : optionalComma none = [] := rfl

@[simp] theorem optionalComma_some (c : Span) : optionalComma (some c) = [⟨.comma, c⟩] := rfl

@[simp] theorem tokensBehindCommas_nil : tokensBehindCommas f [] = [] := rfl

@[simp] theorem tokensBehindCommas_cons (p : Span × α) (others : List (Span × α)) :
    tokensBehindCommas f (p :: others) = ⟨.comma, p.1⟩ :: (f p.2 ++ tokensBehindCommas f others) :=
  rfl

@[simp] theorem tokensInside_none : tokensInside f none = [] := rfl

@[simp] theorem tokensInside_some (l : CommaList α) : tokensInside f (some l) = l.tokens f := rfl

@[simp] theorem itemsInside_none : itemsInside (none : Option (CommaList α)) = [] := rfl

@[simp] theorem itemsInside_some (l : CommaList α) : itemsInside (some l) = l.items := rfl

end Lists

/-! ### Values -/

/-- A word or a quoted text, where either may name something. -/
inductive NameTree where
  | word (n : Name)
  | quoted (n : Name)

/-- The name, without regard to its quotes. -/
def NameTree.name : NameTree → Name
  | word n | quoted n => n

/-- The token of a name. -/
def NameTree.token : NameTree → Located Token
  | word n => n.token
  | quoted n => ⟨.str n.val, n.span⟩

/-- `(Word | Str) ':' a`. -/
structure PairTree (α : Type) where
  key : NameTree
  colon : Span
  value : α

/-- **A value:** `Number | Str | 'true' | 'false' | props | '[' [value (',' value)* [',']] ']'`,
where `props` is `'{' [pair (',' pair)* [',']] '}'`. -/
inductive ValueTree where
  | number (spelling : Located String)
  | string (content : Located String)
  | boolean (truth : Located Bool)
  | object (pairs : Enclosed (PairTree ValueTree))
  | array (elements : Enclosed ValueTree)

/-- The tokens of a pair whose value has the tokens `value`. -/
def PairTree.tokensWith (key : NameTree) (colon : Span) (value : List (Located Token)) :
    List (Located Token) :=
  key.token :: ⟨.colon, colon⟩ :: value

namespace ValueTree

mutual
/-- The tokens of a value. -/
def tokens : ValueTree → List (Located Token)
  | number n => [⟨.number n.val, n.span⟩]
  | string s => [⟨.str s.val, s.span⟩]
  | boolean b => [⟨.word (if b.val then "true" else "false"), b.span⟩]
  | object ⟨left, none, right⟩ => [⟨.lbrace, left⟩, ⟨.rbrace, right⟩]
  | object ⟨left, some ⟨⟨key, colon, v⟩, others, trailing⟩, right⟩ =>
    ⟨.lbrace, left⟩ :: (PairTree.tokensWith key colon v.tokens
      ++ (pairTokens others ++ optionalComma trailing) ++ [⟨.rbrace, right⟩])
  | array ⟨left, none, right⟩ => [⟨.lbracket, left⟩, ⟨.rbracket, right⟩]
  | array ⟨left, some ⟨v, others, trailing⟩, right⟩ =>
    ⟨.lbracket, left⟩ :: (v.tokens
      ++ (elementTokens others ++ optionalComma trailing) ++ [⟨.rbracket, right⟩])

/-- The tokens of pairs behind their commas. -/
def pairTokens : List (Span × PairTree ValueTree) → List (Located Token)
  | [] => []
  | (comma, ⟨key, colon, v⟩) :: others =>
    ⟨.comma, comma⟩ :: (PairTree.tokensWith key colon v.tokens ++ pairTokens others)

/-- The tokens of elements behind their commas. -/
def elementTokens : List (Span × ValueTree) → List (Located Token)
  | [] => []
  | (comma, v) :: others => ⟨.comma, comma⟩ :: (v.tokens ++ elementTokens others)
end

mutual
/-- The literal that a value means. -/
def literal : ValueTree → Literal
  | number n => .number n.val
  | string s => .string s.val
  | boolean b => .boolean b.val
  | object ⟨_, none, _⟩ => .object []
  | object ⟨_, some ⟨⟨key, _, v⟩, others, _⟩, _⟩ =>
    .object ((key.name.val, v.literal) :: pairLiterals others)
  | array ⟨_, none, _⟩ => .array []
  | array ⟨_, some ⟨v, others, _⟩, _⟩ => .array (v.literal :: elementLiterals others)

/-- The fields that pairs mean. -/
def pairLiterals : List (Span × PairTree ValueTree) → List Property
  | [] => []
  | (_, ⟨key, _, v⟩) :: others => (key.name.val, v.literal) :: pairLiterals others

/-- The elements that values mean. -/
def elementLiterals : List (Span × ValueTree) → List Literal
  | [] => []
  | (_, v) :: others => v.literal :: elementLiterals others
end

end ValueTree

/-- The tokens of a pair. -/
def PairTree.tokens (p : PairTree ValueTree) : List (Located Token) :=
  PairTree.tokensWith p.key p.colon p.value.tokens

/-- The property that a pair means. -/
def PairTree.property (p : PairTree ValueTree) : Property :=
  (p.key.name.val, p.value.literal)

namespace ValueTree

theorem pairTokens_eq (others : List (Span × PairTree ValueTree)) :
    pairTokens others = tokensBehindCommas PairTree.tokens others := by
  induction others with
  | nil => rfl
  | cons p others ih => rw [tokensBehindCommas_cons, ← ih]; rfl

theorem elementTokens_eq (others : List (Span × ValueTree)) :
    elementTokens others = tokensBehindCommas tokens others := by
  induction others with
  | nil => rfl
  | cons p others ih => rw [tokensBehindCommas_cons, ← ih]; rfl

theorem pairLiterals_eq (others : List (Span × PairTree ValueTree)) :
    pairLiterals others = (others.map Prod.snd).map PairTree.property := by
  induction others with
  | nil => rfl
  | cons p others ih => rw [List.map_cons, List.map_cons, ← ih]; rfl

theorem elementLiterals_eq (others : List (Span × ValueTree)) :
    elementLiterals others = (others.map Prod.snd).map literal := by
  induction others with
  | nil => rfl
  | cons p others ih => rw [List.map_cons, List.map_cons, ← ih]; rfl

@[simp] theorem tokens_object (e : Enclosed (PairTree ValueTree)) :
    (object e).tokens = e.tokens PairTree.tokens .lbrace .rbrace := by
  obtain ⟨left, _ | ⟨first, others, trailing⟩, right⟩ := e
  · simp [tokens, Enclosed.tokens]
  · simp [tokens, Enclosed.tokens, CommaList.tokens, pairTokens_eq, PairTree.tokens]

@[simp] theorem tokens_array (e : Enclosed ValueTree) :
    (array e).tokens = e.tokens tokens .lbracket .rbracket := by
  obtain ⟨left, _ | ⟨first, others, trailing⟩, right⟩ := e
  · simp [tokens, Enclosed.tokens]
  · simp [tokens, Enclosed.tokens, CommaList.tokens, elementTokens_eq]

@[simp] theorem literal_object (e : Enclosed (PairTree ValueTree)) :
    (object e).literal = .object (e.items.map PairTree.property) := by
  obtain ⟨left, _ | ⟨first, others, trailing⟩, right⟩ := e
  · simp [literal, Enclosed.items]
  · simp [literal, Enclosed.items, CommaList.items, pairLiterals_eq, PairTree.property]

@[simp] theorem literal_array (e : Enclosed ValueTree) :
    (array e).literal = .array (e.items.map literal) := by
  obtain ⟨left, _ | ⟨first, others, trailing⟩, right⟩ := e
  · simp [literal, Enclosed.items]
  · simp [literal, Enclosed.items, CommaList.items, elementLiterals_eq]

theorem sizeOf_lt_of_mem_object {e : Enclosed (PairTree ValueTree)} {p : PairTree ValueTree}
    (hp : p ∈ e.items) : sizeOf p.value < sizeOf (object e) := by
  obtain ⟨left, _ | ⟨first, others, trailing⟩, right⟩ := e
  · cases hp
  · rcases List.mem_cons.1 hp with rfl | hp
    · obtain ⟨key, colon, v⟩ := p
      simp
      omega
    · obtain ⟨⟨comma, key, colon, v⟩, hq, rfl⟩ := List.mem_map.1 hp
      have hlt := List.sizeOf_lt_of_mem hq
      simp at hlt ⊢
      omega

theorem sizeOf_lt_of_mem_array {e : Enclosed ValueTree} {v : ValueTree} (hv : v ∈ e.items) :
    sizeOf v < sizeOf (array e) := by
  obtain ⟨left, _ | ⟨first, others, trailing⟩, right⟩ := e
  · cases hv
  · rcases List.mem_cons.1 hv with rfl | hv
    · simp
      omega
    · obtain ⟨⟨comma, v⟩, hq, rfl⟩ := List.mem_map.1 hv
      have hlt := List.sizeOf_lt_of_mem hq
      simp at hlt ⊢
      omega

/-- Induction over values, with the hypothesis for every entry of an object or an array. -/
@[elab_as_elim, induction_eliminator]
theorem induct {P : ValueTree → Prop} (number : ∀ n, P (.number n)) (string : ∀ s, P (.string s))
    (boolean : ∀ b, P (.boolean b))
    (object : ∀ e : Enclosed (PairTree ValueTree), (∀ p ∈ e.items, P p.value) → P (.object e))
    (array : ∀ e : Enclosed ValueTree, (∀ v ∈ e.items, P v) → P (.array e)) : ∀ v, P v
  | .number n => number n
  | .string s => string s
  | .boolean b => boolean b
  | .object e => object e fun p _ => induct number string boolean object array p.value
  | .array e => array e fun v _ => induct number string boolean object array v
termination_by v => sizeOf v
decreasing_by
  · exact sizeOf_lt_of_mem_object ‹_›
  · exact sizeOf_lt_of_mem_array ‹_›

end ValueTree

/-! ### First tokens -/

/-- Every entry starts with a token that is neither the closing bracket nor a comma. -/
def StartsApart {α : Type} (f : α → List (Located Token)) (right : Token) : Prop :=
  ∀ a, ∃ t ts, f a = t :: ts ∧ t.val ≠ right ∧ t.val ≠ .comma

theorem PairTree.startsApart : StartsApart PairTree.tokens .rbrace := by
  rintro ⟨key, colon, v⟩
  rcases key with n | n
  · exact ⟨_, _, rfl, nofun, nofun⟩
  · exact ⟨_, _, rfl, nofun, nofun⟩

theorem ValueTree.startsApart : StartsApart ValueTree.tokens .rbracket := by
  intro v
  cases v with
  | number n => exact ⟨_, _, rfl, nofun, nofun⟩
  | string s => exact ⟨_, _, rfl, nofun, nofun⟩
  | boolean b => exact ⟨_, _, rfl, nofun, nofun⟩
  | object e => exact ⟨_, _, tokens_object e, nofun, nofun⟩
  | array e => exact ⟨_, _, tokens_array e, nofun, nofun⟩

/-! ### Declarations -/

/-- `props`: the properties of a component or of an instance. -/
abbrev PropertiesTree := Enclosed (PairTree ValueTree)

/-- The tokens of properties. -/
def PropertiesTree.tokens (e : PropertiesTree) : List (Located Token) :=
  Enclosed.tokens PairTree.tokens .lbrace .rbrace e

/-- The properties themselves. -/
def PropertiesTree.properties (e : PropertiesTree) : List Property :=
  e.items.map PairTree.property

/-- `Word props`: a component declaration behind its keyword, or an instance. -/
structure ComponentTree where
  name : Name
  properties : PropertiesTree

/-- `Word props [',']`: an instance in the body of a template. -/
structure InstanceTree where
  component : ComponentTree
  trailing : Option Span

/-- `'extends' Word`. -/
structure ParentTree where
  keyword : Span
  name : Name

/-- `('components' | 'entities') ':' '[' [Word (',' Word)* [',']] ']' [',']`. -/
structure RequirementTree where
  keyword : Located RequirementKind
  colon : Span
  names : Enclosed Name
  trailing : Option Span

/-- **A declaration:** `'project' (Str | Word)`, `'component' Word props`,
`'template' Word ['extends' Word] '{' (Word props [','])* '}'`, or
`'system' Word ['extends' Word] '{' [requirement] '}'`. -/
inductive DeclarationTree where
  | project (keyword : Span) (name : NameTree)
  | component (keyword : Span) (c : ComponentTree)
  | template (keyword : Span) (name : Name) (parent : Option ParentTree) (opening : Span)
      (instances : List InstanceTree) (closing : Span)
  | system (keyword : Span) (name : Name) (parent : Option ParentTree) (opening : Span)
      (requirement : Option RequirementTree) (closing : Span)

/-- **A description:** any number of declarations. -/
abbrev DescriptionTree := List DeclarationTree

/-- The keyword that opens a requirement. -/
def RequirementKind.keyword : RequirementKind → String
  | components => "components"
  | entities => "entities"

/-- The tokens of a name with properties. -/
def ComponentTree.tokens (c : ComponentTree) : List (Located Token) :=
  c.name.token :: c.properties.tokens

/-- The tokens of an instance. -/
def InstanceTree.tokens (i : InstanceTree) : List (Located Token) :=
  i.component.tokens ++ optionalComma i.trailing

/-- Behind an instance stands the name of another one or the closing bracket, never a second
comma. -/
theorem exists_cons_instances (instances : List InstanceTree) (right : Span)
    (r : List (Located Token)) :
    ∃ t ts, instances.flatMap InstanceTree.tokens ++ ⟨.rbrace, right⟩ :: r = t :: ts ∧
      t.val ≠ .comma := by
  rcases instances with _ | ⟨i, instances⟩
  · exact ⟨_, _, rfl, nofun⟩
  · exact ⟨_, _, rfl, nofun⟩

/-- The tokens of a parent, if there is one. -/
def parentTokens : Option ParentTree → List (Located Token)
  | none => []
  | some p => [⟨.word "extends", p.keyword⟩, p.name.token]

/-- The tokens of a requirement. -/
def RequirementTree.tokens (r : RequirementTree) : List (Located Token) :=
  ⟨.word r.keyword.val.keyword, r.keyword.span⟩ :: ⟨.colon, r.colon⟩
    :: (r.names.tokens (fun n => [n.token]) .lbracket .rbracket ++ optionalComma r.trailing)

/-- The tokens of a requirement, if there is one. -/
def requirementTokens (r : Option RequirementTree) : List (Located Token) :=
  (r.map RequirementTree.tokens).getD []

/-- The tokens of a declaration. -/
def DeclarationTree.tokens : DeclarationTree → List (Located Token)
  | project keyword name => [⟨.word "project", keyword⟩, name.token]
  | component keyword c => ⟨.word "component", keyword⟩ :: c.tokens
  | template keyword name parent left instances right =>
    ⟨.word "template", keyword⟩ :: name.token :: (parentTokens parent
      ++ ⟨.lbrace, left⟩ :: (instances.flatMap InstanceTree.tokens ++ [⟨.rbrace, right⟩]))
  | system keyword name parent left requirement right =>
    ⟨.word "system", keyword⟩ :: name.token :: (parentTokens parent
      ++ ⟨.lbrace, left⟩ :: (requirementTokens requirement ++ [⟨.rbrace, right⟩]))

theorem DeclarationTree.tokens_ne_nil : ∀ d : DeclarationTree, d.tokens ≠ []
  | project _ _ | component _ _ | template _ _ _ _ _ _ | system _ _ _ _ _ _ => nofun

/-- **The tokens of a description.** -/
def DescriptionTree.tokens (d : DescriptionTree) : List (Located Token) :=
  d.flatMap DeclarationTree.tokens

/-! ### What declarations mean -/

/-- The component that a name with properties means. -/
def ComponentTree.component (c : ComponentTree) : Component :=
  ⟨c.name, c.properties.properties⟩

/-- The requirement of a system. Without one it requires an empty list of components. -/
def requirementMeant : Option RequirementTree → Requirement
  | none => ⟨.components, []⟩
  | some r => ⟨r.keyword.val, r.names.items⟩

/-- **The declaration that a tree means.** -/
def DeclarationTree.declaration : DeclarationTree → Declaration
  | project keyword name => .project name.name ⟨keyword.start, name.name.span.stop⟩
  | component _ c => .component c.component
  | template _ name parent _ instances _ =>
    .template ⟨name, parent.map ParentTree.name, instances.map fun i => i.component.component⟩
  | system _ name parent _ requirement _ =>
    .system ⟨name, parent.map ParentTree.name, requirementMeant requirement⟩

/-- The name of a project and the span of its declaration, from the keyword to the name. -/
def DeclarationTree.project? : DeclarationTree → Option (Name × Span)
  | project keyword name => some (name.name, ⟨keyword.start, name.name.span.stop⟩)
  | _ => none

/-- The component that is declared. -/
def DeclarationTree.component? : DeclarationTree → Option Component
  | component _ c => some c.component
  | _ => none

/-- The template that is declared. -/
def DeclarationTree.template? : DeclarationTree → Option Template
  | template _ name parent _ instances _ =>
    some ⟨name, parent.map ParentTree.name, instances.map fun i => i.component.component⟩
  | _ => none

/-- The system that is declared. -/
def DeclarationTree.system? : DeclarationTree → Option System
  | system _ name parent _ requirement _ =>
    some ⟨name, parent.map ParentTree.name, requirementMeant requirement⟩
  | _ => none

/-- The projects of a description. -/
def DescriptionTree.projects (d : DescriptionTree) : List (Name × Span) :=
  d.filterMap DeclarationTree.project?

/-- **The program that a description means** for a given name of the project. -/
def DescriptionTree.program (d : DescriptionTree) (name : Name) : Program where
  name := name
  components := d.filterMap DeclarationTree.component?
  templates := d.filterMap DeclarationTree.template?
  systems := d.filterMap DeclarationTree.system?

end EntityForge
