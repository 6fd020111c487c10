import EntityForge.Program
import EntityForge.Grammar.LiteralReader

/-! # Reading declarations

The grammar of a description: any number of declarations, each started by its keyword. Keywords are
ordinary words, so after the keyword any word is a name.

* `Stage`: where the reading of the current declaration stands.
* `DeclarationState`: the declarations read so far and the stage of the current one.
* `declarationReader`: the machine that reads all declarations. -/

namespace EntityForge

/-- A template whose body is being read, its instances latest first. -/
structure OpenTemplate where
  name : Name
  parent : Option Name
  instances : List Component
  deriving Repr

/-- A system before its requirement. -/
structure OpenSystem where
  name : Name
  parent : Option Name
  deriving Repr

/-- What a property list belongs to: a component declaration, or an instance in a template. -/
inductive Owner where
  | component
  | template (t : OpenTemplate)
  deriving Repr

/-- **Where the reading of a declaration stands,** named for what comes next; the names of a
requirement are listed latest first. -/
inductive Stage where
  | top
  | projectName (keyword : Span)
  | componentName
  | propertiesOpen (owner : Owner) (name : Name)
  | properties (owner : Owner) (name : Name) (reading : LiteralState)
  | templateName
  | templateHead (name : Name)
  | templateParent (name : Name)
  | templateOpen (name parent : Name)
  | instanceName (t : OpenTemplate)
  | instanceEnd (t : OpenTemplate)
  | systemName
  | systemHead (name : Name)
  | systemParent (name : Name)
  | systemOpen (name parent : Name)
  | requirement (s : OpenSystem)
  | requirementColon (s : OpenSystem) (kind : RequirementKind)
  | requirementOpen (s : OpenSystem) (kind : RequirementKind)
  | requiredName (s : OpenSystem) (kind : RequirementKind) (names : List Name)
  | requiredEnd (s : OpenSystem) (kind : RequirementKind) (names : List Name)
  | requirementEnd (s : System)
  | systemEnd (s : System)
  deriving Repr

/-- **The declarations read so far,** latest first, and the stage of the current one. -/
structure DeclarationState where
  finished : List Declaration
  stage : Stage
  deriving Repr

/-- The fields of an object; any other literal has none. -/
def Literal.fields : Literal → List Property
  | .object fields => fields
  | _ => []

/-- The stage after a keyword at the top level. -/
def Stage.ofKeyword? (w : String) (span : Span) : Option Stage :=
  if w = "project" then some (.projectName span)
  else if w = "component" then some .componentName
  else if w = "template" then some .templateName
  else if w = "system" then some .systemName
  else none

/-- The requirement that a keyword opens. -/
def RequirementKind.ofKeyword? (w : String) : Option RequirementKind :=
  if w = "components" then some .components
  else if w = "entities" then some .entities
  else none

namespace DeclarationState

/-- The same declarations with the current one at another stage. -/
def enter (s : DeclarationState) (stage : Stage) : DeclarationState :=
  ⟨s.finished, stage⟩

/-- The state after a complete declaration. -/
def finish (s : DeclarationState) (d : Declaration) : DeclarationState :=
  ⟨d :: s.finished, .top⟩

/-- The state after a complete property list. -/
def close (s : DeclarationState) (c : Component) : Owner → DeclarationState
  | .component => s.finish (.component c)
  | .template t => s.enter (.instanceEnd ⟨t.name, t.parent, c :: t.instances⟩)

/-- The state after a complete template. -/
def finishTemplate (s : DeclarationState) (t : OpenTemplate) : DeclarationState :=
  s.finish (.template ⟨t.name, t.parent, t.instances.reverse⟩)

/-- The state after a token of a property list. -/
def stepProperties (s : DeclarationState) (owner : Owner) (name : Name) (reading : LiteralState)
    (t : Token) : Option DeclarationState :=
  match reading.step t with
  | none => none
  | some (.done v) => some (s.close ⟨name, v.fields⟩ owner)
  | some next => some (s.enter (.properties owner name next))

/-- **The next state,** if the token can go on. -/
def step (s : DeclarationState) (t : Located Token) : Option DeclarationState :=
  match s.stage, t.val with
  | .top, .word w => (Stage.ofKeyword? w t.span).map s.enter
  | .projectName keyword, .word n =>
    some (s.finish (.project ⟨n, t.span⟩ ⟨keyword.start, t.span.stop⟩))
  | .projectName keyword, .str n =>
    some (s.finish (.project ⟨n, t.span⟩ ⟨keyword.start, t.span.stop⟩))
  | .componentName, .word n => some (s.enter (.propertiesOpen .component ⟨n, t.span⟩))
  | .propertiesOpen owner name, .lbrace => some (s.enter (.properties owner name (.key [] [])))
  | .properties owner name reading, token => s.stepProperties owner name reading token
  | .templateName, .word n => some (s.enter (.templateHead ⟨n, t.span⟩))
  | .templateHead name, .lbrace => some (s.enter (.instanceName ⟨name, none, []⟩))
  | .templateHead name, .word w =>
    if w = "extends" then some (s.enter (.templateParent name)) else none
  | .templateParent name, .word n => some (s.enter (.templateOpen name ⟨n, t.span⟩))
  | .templateOpen name parent, .lbrace => some (s.enter (.instanceName ⟨name, some parent, []⟩))
  | .instanceName open_, .word n => some (s.enter (.propertiesOpen (.template open_) ⟨n, t.span⟩))
  | .instanceName open_, .rbrace => some (s.finishTemplate open_)
  | .instanceEnd open_, .comma => some (s.enter (.instanceName open_))
  | .instanceEnd open_, .word n => some (s.enter (.propertiesOpen (.template open_) ⟨n, t.span⟩))
  | .instanceEnd open_, .rbrace => some (s.finishTemplate open_)
  | .systemName, .word n => some (s.enter (.systemHead ⟨n, t.span⟩))
  | .systemHead name, .lbrace => some (s.enter (.requirement ⟨name, none⟩))
  | .systemHead name, .word w =>
    if w = "extends" then some (s.enter (.systemParent name)) else none
  | .systemParent name, .word n => some (s.enter (.systemOpen name ⟨n, t.span⟩))
  | .systemOpen name parent, .lbrace => some (s.enter (.requirement ⟨name, some parent⟩))
  | .requirement open_, .word w =>
    (RequirementKind.ofKeyword? w).map fun kind => s.enter (.requirementColon open_ kind)
  | .requirement open_, .rbrace =>
    some (s.finish (.system ⟨open_.name, open_.parent, ⟨.components, []⟩⟩))
  | .requirementColon open_ kind, .colon => some (s.enter (.requirementOpen open_ kind))
  | .requirementOpen open_ kind, .lbracket => some (s.enter (.requiredName open_ kind []))
  | .requiredName open_ kind names, .word n =>
    some (s.enter (.requiredEnd open_ kind (⟨n, t.span⟩ :: names)))
  | .requiredName open_ kind names, .rbracket =>
    some (s.enter (.requirementEnd ⟨open_.name, open_.parent, ⟨kind, names.reverse⟩⟩))
  | .requiredEnd open_ kind names, .comma => some (s.enter (.requiredName open_ kind names))
  | .requiredEnd open_ kind names, .rbracket =>
    some (s.enter (.requirementEnd ⟨open_.name, open_.parent, ⟨kind, names.reverse⟩⟩))
  | .requirementEnd system, .comma => some (s.enter (.systemEnd system))
  | .requirementEnd system, .rbrace => some (s.finish (.system system))
  | .systemEnd system, .rbrace => some (s.finish (.system system))
  | _, _ => none

end DeclarationState

/-- **What may come next.** -/
def Stage.expected : Stage → List Label
  | .top => [.projectDeclaration, .componentDeclaration, .templateDeclaration, .systemDeclaration,
      .endOfInput]
  | .projectName _ => [.projectName]
  | .componentName | .templateName | .systemName => [.identifier]
  | .templateParent _ | .systemParent _ => [.identifier]
  | .propertiesOpen _ _ | .templateOpen _ _ | .systemOpen _ _ => [.mark .lbrace]
  | .templateHead _ | .systemHead _ => [.keyword "extends", .mark .lbrace]
  | .properties _ _ reading => reading.expected
  | .instanceName _ => [.identifier, .mark .rbrace]
  | .instanceEnd _ => [.mark .comma, .identifier, .mark .rbrace]
  | .requirement _ => [.keyword "components", .keyword "entities", .mark .rbrace]
  | .requirementColon _ _ => [.mark .colon]
  | .requirementOpen _ _ => [.mark .lbracket]
  | .requiredName _ _ _ => [.identifier, .mark .rbracket]
  | .requiredEnd _ _ _ => [.mark .comma, .mark .rbracket]
  | .requirementEnd _ => [.mark .comma, .mark .rbrace]
  | .systemEnd _ => [.mark .rbrace]

/-- The declarations in source order, between two of them. -/
def DeclarationState.result (s : DeclarationState) : Option (List Declaration) :=
  match s.stage with
  | .top => some s.finished.reverse
  | _ => none

/-- **The reader of declarations.** -/
def declarationReader : Machine DeclarationState (List Declaration) where
  start := ⟨[], .top⟩
  step := DeclarationState.step
  expected := fun s => s.stage.expected
  result := DeclarationState.result

end EntityForge
