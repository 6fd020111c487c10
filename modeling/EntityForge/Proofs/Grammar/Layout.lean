import EntityForge.Grammar.Parse
import Mathlib.Data.List.Basic

/-! # Parsing without regard to the layout

A layout decides where the tokens of a description stand. What is read from them keeps these places
and depends on them in no other way. To say so, everything that has a place can be moved to the
start of the text: `unplaced` does it to tokens, to declarations, to the states of the reader and to
faults. Moving the tokens moves what is read.

* `DeclarationState.step_unplaced`: one step of the reader.
* `runFrom_declarationReader_unplaced`: a whole run.
* `parseDescription_unplaced`: parsing.
* `parseDescription_congr`: the same tokens at other places. -/

namespace EntityForge

/-! ### At the start of the text -/

/-- **A value moved** to the start of the text. -/
def Located.unplaced {α : Type} (x : Located α) : Located α :=
  ⟨x.val, ⟨0, 0⟩⟩

theorem Located.map_unplaced_congr {α : Type} {xs ys : List (Located α)}
    (h : xs.map Located.val = ys.map Located.val) :
    xs.map Located.unplaced = ys.map Located.unplaced := by
  have hcomp : ∀ zs : List (Located α),
      zs.map Located.unplaced = (zs.map Located.val).map fun v => ⟨v, ⟨0, 0⟩⟩ := fun zs => by
    rw [List.map_map]
    rfl
  rw [hcomp, hcomp, h]

/-- A component moved to the start. -/
def Component.unplaced (c : Component) : Component :=
  ⟨c.name.unplaced, c.properties⟩

/-- A template moved to the start. -/
def Template.unplaced (t : Template) : Template :=
  ⟨t.name.unplaced, t.parent.map Located.unplaced, t.instances.map Component.unplaced⟩

/-- A requirement moved to the start. -/
def Requirement.unplaced (r : Requirement) : Requirement :=
  ⟨r.kind, r.names.map Located.unplaced⟩

/-- A system moved to the start. -/
def System.unplaced (s : System) : System :=
  ⟨s.name.unplaced, s.parent.map Located.unplaced, s.requirement.unplaced⟩

/-- **A declaration moved** to the start of the text. -/
def Declaration.unplaced : Declaration → Declaration
  | project name _ => project name.unplaced ⟨0, 0⟩
  | component c => component c.unplaced
  | template t => template t.unplaced
  | system s => system s.unplaced

/-- **A program moved** to the start of the text. -/
def Program.unplaced (p : Program) : Program where
  name := p.name.unplaced
  components := p.components.map Component.unplaced
  templates := p.templates.map Template.unplaced
  systems := p.systems.map System.unplaced

/-- An open template moved to the start. -/
def OpenTemplate.unplaced (t : OpenTemplate) : OpenTemplate :=
  ⟨t.name.unplaced, t.parent.map Located.unplaced, t.instances.map Component.unplaced⟩

/-- An open system moved to the start. -/
def OpenSystem.unplaced (s : OpenSystem) : OpenSystem :=
  ⟨s.name.unplaced, s.parent.map Located.unplaced⟩

/-- The owner of properties moved to the start. -/
def Owner.unplaced : Owner → Owner
  | component => component
  | template t => template t.unplaced

/-- A stage of the reader moved to the start. -/
def Stage.unplaced : Stage → Stage
  | top => top
  | projectName _ => projectName ⟨0, 0⟩
  | componentName => componentName
  | propertiesOpen owner name => propertiesOpen owner.unplaced name.unplaced
  | properties owner name reading => properties owner.unplaced name.unplaced reading
  | templateName => templateName
  | templateHead name => templateHead name.unplaced
  | templateParent name => templateParent name.unplaced
  | templateOpen name parent => templateOpen name.unplaced parent.unplaced
  | instanceName t => instanceName t.unplaced
  | instanceEnd t => instanceEnd t.unplaced
  | systemName => systemName
  | systemHead name => systemHead name.unplaced
  | systemParent name => systemParent name.unplaced
  | systemOpen name parent => systemOpen name.unplaced parent.unplaced
  | requirement s => requirement s.unplaced
  | requirementColon s kind => requirementColon s.unplaced kind
  | requirementOpen s kind => requirementOpen s.unplaced kind
  | requiredName s kind names => requiredName s.unplaced kind (names.map Located.unplaced)
  | requiredEnd s kind names => requiredEnd s.unplaced kind (names.map Located.unplaced)
  | requirementEnd s => requirementEnd s.unplaced
  | systemEnd s => systemEnd s.unplaced

/-- **A state of the reader moved** to the start of the text. -/
def DeclarationState.unplaced (s : DeclarationState) : DeclarationState :=
  ⟨s.finished.map Declaration.unplaced, s.stage.unplaced⟩

/-- A mismatch moved to the start. -/
def Mismatch.unplaced (m : Mismatch) : Mismatch :=
  ⟨m.found.map Located.unplaced, m.expected⟩

/-- Faults moved to the start. -/
def ParseFaults.unplaced (fs : ParseFaults) : ParseFaults :=
  ⟨fs.first.unplaced, fs.more.map Located.unplaced⟩

/-! ### Reading -/

namespace DeclarationState

theorem close_unplaced (s : DeclarationState) (c : Component) (owner : Owner) :
    s.unplaced.close c.unplaced owner.unplaced = (s.close c owner).unplaced := by
  cases owner <;> rfl

theorem finishTemplate_unplaced (s : DeclarationState) (t : OpenTemplate) :
    s.unplaced.finishTemplate t.unplaced = (s.finishTemplate t).unplaced := by
  simp [finishTemplate, finish, unplaced, OpenTemplate.unplaced, Declaration.unplaced,
    Template.unplaced, Stage.unplaced]

theorem stepProperties_unplaced (s : DeclarationState) (owner : Owner) (name : Name)
    (reading : LiteralState) (t : Token) :
    s.unplaced.stepProperties owner.unplaced name.unplaced reading t
      = (s.stepProperties owner name reading t).map unplaced := by
  unfold stepProperties
  split
  · rfl
  · next v _ => exact congrArg some (s.close_unplaced ⟨name, v.fields⟩ owner)
  · rfl

theorem step_unplaced (s : DeclarationState) (t : Located Token) :
    s.unplaced.step t.unplaced = (s.step t).map unplaced := by
  obtain ⟨finished, stage⟩ := s
  obtain ⟨token, span⟩ := t
  cases stage with
  | top =>
    cases token with
    | word w =>
      simp only [step, unplaced, Located.unplaced, Stage.unplaced, Option.map_map]
      unfold Stage.ofKeyword?
      split_ifs <;> rfl
    | _ => rfl
  | properties owner name reading =>
    exact stepProperties_unplaced ⟨finished, _⟩ owner name reading token
  | templateHead name =>
    cases token with
    | word w =>
      simp only [step, unplaced, Located.unplaced, Stage.unplaced]
      split_ifs <;> rfl
    | _ => rfl
  | systemHead name =>
    cases token with
    | word w =>
      simp only [step, unplaced, Located.unplaced, Stage.unplaced]
      split_ifs <;> rfl
    | _ => rfl
  | instanceName o =>
    cases token with
    | rbrace => exact congrArg some (finishTemplate_unplaced ⟨finished, _⟩ o)
    | _ => rfl
  | instanceEnd o =>
    cases token with
    | rbrace => exact congrArg some (finishTemplate_unplaced ⟨finished, _⟩ o)
    | _ => rfl
  | requirement o =>
    cases token with
    | word w =>
      simp only [step, unplaced, Located.unplaced, Stage.unplaced, Option.map_map]
      rfl
    | _ => rfl
  | requiredName o kind names =>
    cases token with
    | rbracket =>
      simp [step, unplaced, enter, Located.unplaced, Stage.unplaced, System.unplaced,
        OpenSystem.unplaced, Requirement.unplaced]
    | _ => rfl
  | requiredEnd o kind names =>
    cases token with
    | rbracket =>
      simp [step, unplaced, enter, Located.unplaced, Stage.unplaced, System.unplaced,
        OpenSystem.unplaced, Requirement.unplaced]
    | _ => rfl
  | _ => cases token <;> rfl

theorem expected_unplaced (s : DeclarationState) :
    s.unplaced.stage.expected = s.stage.expected := by
  obtain ⟨finished, stage⟩ := s
  cases stage <;> rfl

theorem result_unplaced (s : DeclarationState) :
    s.unplaced.result = s.result.map (List.map Declaration.unplaced) := by
  obtain ⟨finished, stage⟩ := s
  cases stage with
  | top => simp [result, unplaced, Stage.unplaced]
  | _ => rfl

end DeclarationState

/-- **A run of the reader,** to whichever end it comes. -/
theorem runFrom_declarationReader_unplaced (ts : List (Located Token)) :
    ∀ s : DeclarationState, declarationReader.runFrom s.unplaced (ts.map Located.unplaced)
      = ((declarationReader.runFrom s ts).map (List.map Declaration.unplaced)).mapError
          Mismatch.unplaced := by
  induction ts with
  | nil =>
    intro s
    have hresult : declarationReader.result s.unplaced
        = (declarationReader.result s).map (List.map Declaration.unplaced) := s.result_unplaced
    have hexpected : declarationReader.expected s.unplaced = declarationReader.expected s :=
      s.expected_unplaced
    rw [List.map_nil, Machine.runFrom, Machine.runFrom, hresult, hexpected]
    rcases declarationReader.result s with _ | ds <;> rfl
  | cons t ts ih =>
    intro s
    have hstep : declarationReader.step s.unplaced t.unplaced
        = (declarationReader.step s t).map DeclarationState.unplaced := s.step_unplaced t
    have hexpected : declarationReader.expected s.unplaced = declarationReader.expected s :=
      s.expected_unplaced
    rw [List.map_cons, Machine.runFrom, Machine.runFrom, hstep, hexpected]
    rcases declarationReader.step s t with _ | next
    · rfl
    · exact ih next

theorem run_declarationReader_unplaced (ts : List (Located Token)) :
    declarationReader.run (ts.map Located.unplaced)
      = ((declarationReader.run ts).map (List.map Declaration.unplaced)).mapError
          Mismatch.unplaced :=
  runFrom_declarationReader_unplaced ts ⟨[], .top⟩

/-! ### Parsing -/

section Sorting
variable (ds : List Declaration)

theorem projectsOf_unplaced : projectsOf (ds.map Declaration.unplaced)
    = (projectsOf ds).map fun p => (p.1.unplaced, ⟨0, 0⟩) := by
  unfold projectsOf
  rw [List.filterMap_map, List.map_filterMap]
  exact List.filterMap_congr fun d _ => by cases d <;> rfl

theorem componentsOf_unplaced : componentsOf (ds.map Declaration.unplaced)
    = (componentsOf ds).map Component.unplaced := by
  unfold componentsOf
  rw [List.filterMap_map, List.map_filterMap]
  exact List.filterMap_congr fun d _ => by cases d <;> rfl

theorem templatesOf_unplaced : templatesOf (ds.map Declaration.unplaced)
    = (templatesOf ds).map Template.unplaced := by
  unfold templatesOf
  rw [List.filterMap_map, List.map_filterMap]
  exact List.filterMap_congr fun d _ => by cases d <;> rfl

theorem systemsOf_unplaced : systemsOf (ds.map Declaration.unplaced)
    = (systemsOf ds).map System.unplaced := by
  unfold systemsOf
  rw [List.filterMap_map, List.map_filterMap]
  exact List.filterMap_congr fun d _ => by cases d <;> rfl

theorem sortDeclarations_unplaced (stop : ℕ) : sortDeclarations (ds.map Declaration.unplaced) 0
    = ((sortDeclarations ds stop).map Program.unplaced).mapError ParseFaults.unplaced := by
  unfold sortDeclarations
  rw [projectsOf_unplaced, componentsOf_unplaced, templatesOf_unplaced, systemsOf_unplaced]
  rcases projectsOf ds with _ | ⟨⟨name, span⟩, _ | ⟨⟨other, again⟩, others⟩⟩
  · rfl
  · rfl
  · simp [Except.map, Except.mapError, ParseFaults.unplaced, Located.unplaced, Function.comp_def]

end Sorting

theorem endOfTokens_unplaced (ts : List (Located Token)) :
    endOfTokens (ts.map Located.unplaced) = 0 := by
  unfold endOfTokens
  rw [List.getLast?_map]
  rcases ts.getLast? with _ | t <;> rfl

theorem Mismatch.fault_unplaced (m : Mismatch) (stop : ℕ) :
    m.unplaced.fault 0 = (m.fault stop).unplaced := by
  obtain ⟨_ | t, expected⟩ := m <;> rfl

theorem parseDescription_unplaced (ts : List (Located Token)) :
    parseDescription (ts.map Located.unplaced)
      = ((parseDescription ts).map Program.unplaced).mapError ParseFaults.unplaced := by
  unfold parseDescription
  rw [run_declarationReader_unplaced, endOfTokens_unplaced]
  rcases declarationReader.run ts with m | ds
  · have hfault := m.fault_unplaced (endOfTokens ts)
    simp [Except.map, Except.mapError, ParseFaults.unplaced, hfault]
  · exact sortDeclarations_unplaced ds (endOfTokens ts)

/-- **The same tokens at other places** are parsed the same way. -/
theorem parseDescription_congr {ts us : List (Located Token)}
    (h : ts.map Located.val = us.map Located.val) :
    (∃ p q, parseDescription ts = .ok p ∧ parseDescription us = .ok q ∧
      p.unplaced = q.unplaced) ∨
    ∃ fs gs, parseDescription ts = .error fs ∧ parseDescription us = .error gs ∧
      fs.unplaced = gs.unplaced := by
  have hmoved := congrArg parseDescription (Located.map_unplaced_congr h)
  rw [parseDescription_unplaced, parseDescription_unplaced] at hmoved
  rcases hts : parseDescription ts with fs | p <;> rcases hus : parseDescription us with gs | q <;>
    rw [hts, hus] at hmoved
  · exact .inr ⟨fs, gs, rfl, rfl, Except.error.inj hmoved⟩
  · cases hmoved
  · cases hmoved
  · exact .inl ⟨p, q, rfl, rfl, Except.ok.inj hmoved⟩

end EntityForge
