import EntityForge.Proofs.Grammar.Acceptance
import EntityForge.Proofs.Build.Layout

/-! # Declarations of different kinds

A description may mix its declarations as it likes. What counts is the order within each kind:
declarations that are written with the same tokens mean the same, wherever they stand, and sorting
keeps the order of each kind only. So a system may stand before the templates that it names.

* `DescriptionTree.written`: the declarations of one kind, as they are written.
* `declarations_congr`: what is written with the same tokens means the same.
* `DescriptionTree.unplaced_program_congr`: so does a description, kind by kind.
* `compileSource_ignores_interleaving`: texts whose declarations are mixed in different ways. -/

namespace EntityForge

/-- **The kinds of declarations.** -/
inductive DeclarationKind where
  | project
  | component
  | template
  | system
  deriving DecidableEq, Repr

/-- The kind of a declaration. -/
def DeclarationTree.kind : DeclarationTree → DeclarationKind
  | project .. => .project
  | component .. => .component
  | template .. => .template
  | system .. => .system

/-- The declarations of a kind. -/
def DescriptionTree.ofKind (d : DescriptionTree) (kind : DeclarationKind) : DescriptionTree :=
  d.filter fun a => a.kind = kind

/-- **The declarations of a kind as they are written,** in their order: the tokens of each of them,
without their places. -/
def DescriptionTree.written (d : DescriptionTree) (kind : DeclarationKind) : List (List Token) :=
  (d.ofKind kind).map fun a => a.tokens.map Located.val

theorem DescriptionTree.flatten_written (d : DescriptionTree) (kind : DeclarationKind) :
    (d.written kind).flatten = (d.ofKind kind).tokens.map Located.val := by
  rw [written, DescriptionTree.tokens, List.map_flatMap, List.flatMap_def]

/-- **The same tokens mean the same declarations,** wherever they stand. -/
theorem declarations_congr {d e : DescriptionTree}
    (h : d.tokens.map Located.val = e.tokens.map Located.val) :
    (d.map DeclarationTree.declaration).map Declaration.unplaced
      = (e.map DeclarationTree.declaration).map Declaration.unplaced := by
  have hread : ∀ f : DescriptionTree, declarationReader.run (f.tokens.map Located.unplaced)
      = .ok ((f.map DeclarationTree.declaration).map Declaration.unplaced) := fun f => by
    rw [run_declarationReader_unplaced, run_declarationReader_eq_ok_iff.2 ⟨f, rfl, rfl⟩]
    rfl
  have hmoved := congrArg declarationReader.run (Located.map_unplaced_congr h)
  rw [hread, hread] at hmoved
  exact Except.ok.inj hmoved

/-! ### Kind by kind -/

section Parts
variable {α : Type} {d e : DescriptionTree} {kind : DeclarationKind}

/-- A part that only declarations of one kind have is the same in two descriptions that write this
kind in the same way. -/
theorem parts_congr {partsOf : List Declaration → List α} {part : DeclarationTree → Option α}
    {move : α → α}
    (hparts : ∀ f : DescriptionTree, partsOf (f.map DeclarationTree.declaration) = f.filterMap part)
    (hmove : ∀ ds, partsOf (ds.map Declaration.unplaced) = (partsOf ds).map move)
    (hkind : ∀ a, a.kind ≠ kind → part a = none) (h : d.written kind = e.written kind) :
    (d.filterMap part).map move = (e.filterMap part).map move := by
  have hwhole : ∀ f : DescriptionTree, (f.filterMap part).map move
      = partsOf (((f.ofKind kind).map DeclarationTree.declaration).map Declaration.unplaced) :=
    fun f => by
      rw [hmove, hparts, DescriptionTree.ofKind, List.filterMap_filter]
      refine congrArg _ (List.filterMap_congr fun a _ => ?_)
      by_cases ha : a.kind = kind
      · simp [ha]
      · simp [ha, hkind a ha]
  have htokens := congrArg List.flatten h
  rw [d.flatten_written, e.flatten_written] at htokens
  rw [hwhole, hwhole, declarations_congr htokens]

theorem projects_congr (h : d.written .project = e.written .project) :
    d.projects.map (fun p => (p.1.unplaced, (⟨0, 0⟩ : Span)))
      = e.projects.map fun p => (p.1.unplaced, ⟨0, 0⟩) := by
  refine parts_congr projectsOf_declarations projectsOf_unplaced (fun a ha => ?_) h
  cases a with
  | project => exact absurd rfl ha
  | _ => rfl

theorem components_congr (h : d.written .component = e.written .component) :
    (d.filterMap DeclarationTree.component?).map Component.unplaced
      = (e.filterMap DeclarationTree.component?).map Component.unplaced := by
  refine parts_congr componentsOf_declarations componentsOf_unplaced (fun a ha => ?_) h
  cases a with
  | component => exact absurd rfl ha
  | _ => rfl

theorem templates_congr (h : d.written .template = e.written .template) :
    (d.filterMap DeclarationTree.template?).map Template.unplaced
      = (e.filterMap DeclarationTree.template?).map Template.unplaced := by
  refine parts_congr templatesOf_declarations templatesOf_unplaced (fun a ha => ?_) h
  cases a with
  | template => exact absurd rfl ha
  | _ => rfl

theorem systems_congr (h : d.written .system = e.written .system) :
    (d.filterMap DeclarationTree.system?).map System.unplaced
      = (e.filterMap DeclarationTree.system?).map System.unplaced := by
  refine parts_congr systemsOf_declarations systemsOf_unplaced (fun a ha => ?_) h
  cases a with
  | system => exact absurd rfl ha
  | _ => rfl

end Parts

/-- **Descriptions that write every kind in the same way** mean the same, places apart. -/
theorem DescriptionTree.unplaced_program_congr {d e : DescriptionTree}
    (h : ∀ kind, d.written kind = e.written kind) {name other : Name}
    (hname : name.unplaced = other.unplaced) :
    (d.program name).unplaced = (e.program other).unplaced := by
  unfold Program.unplaced DescriptionTree.program
  rw [hname, components_congr (h .component), templates_congr (h .template),
    systems_congr (h .system)]

/-- **How declarations of different kinds are mixed does not matter.** Take two texts that scan
without a fault into the tokens of descriptions, with the same project declaration and, kind by
kind, the same components, templates and systems in the same order, all compared as they are
written. The two texts are not malformed, and they compile to the same output or the same error,
with the same warnings and events. -/
theorem compileSource_ignores_interleaving (config : Config) {source other : String}
    {d e : DescriptionTree} (hsource : (scan source).faults = [])
    (hother : (scan other).faults = []) (hd : d.tokens = (scan source).tokens)
    (he : e.tokens = (scan other).tokens) (hproject : d.projects.length = 1)
    (hwritten : ∀ kind, d.written kind = e.written kind) :
    compileSource config source = compileSource config other ∧
      ∀ m, (compileSource config source).outcome ≠ .error (.malformed m) := by
  have hprojects := projects_congr (hwritten .project)
  obtain ⟨⟨name, span⟩, hname⟩ := List.length_eq_one_iff.1 hproject
  rw [hname] at hprojects
  obtain ⟨⟨name', span'⟩, hname', hmoved⟩ := List.map_eq_singleton_iff.1 hprojects.symm
  have hnames : name.unplaced = name'.unplaced := (congrArg Prod.fst hmoved).symm
  have hp : parseDescription (scan source).tokens = .ok (d.program name) :=
    parseDescription_eq_ok_iff.2 ⟨d, hd, name, span, hname, rfl⟩
  have hq : parseDescription (scan other).tokens = .ok (e.program name') :=
    parseDescription_eq_ok_iff.2 ⟨e, he, name', span', hname', rfl⟩
  obtain ⟨hrun, hread⟩ := compileSource_of_parse config hsource hp
  obtain ⟨hrun', -⟩ := compileSource_of_parse config hother hq
  have hcompile := compile_congr config (DescriptionTree.unplaced_program_congr hwritten hnames)
  refine ⟨?_, hread⟩
  rw [hrun, hrun', hcompile]

/-- A text with a system before the template that it names. -/
def forwardSource : String :=
  "system S \x7bentities: [T]\x7d project P template T \x7bA \x7b\x7d\x7d"

/-- How it derives. -/
def forwardTree : DescriptionTree :=
  [.system ⟨0, 6⟩ ⟨"S", ⟨7, 8⟩⟩ none ⟨9, 10⟩ (some ⟨⟨.entities, ⟨10, 18⟩⟩, ⟨18, 19⟩,
      ⟨⟨20, 21⟩, some ⟨⟨"T", ⟨21, 22⟩⟩, [], none⟩, ⟨22, 23⟩⟩, none⟩) ⟨23, 24⟩,
    .project ⟨25, 32⟩ (.word ⟨"P", ⟨33, 34⟩⟩),
    .template ⟨35, 43⟩ ⟨"T", ⟨44, 45⟩⟩ none ⟨46, 47⟩
      [⟨⟨⟨"A", ⟨47, 48⟩⟩, ⟨⟨49, 50⟩, none, ⟨50, 51⟩⟩⟩, none⟩] ⟨51, 52⟩]

/-- The same declarations, the system last. -/
def backwardSource : String :=
  "project P\ntemplate T \x7b A \x7b\x7d \x7d\nsystem S \x7b entities: [T] \x7d\n"

/-- How these derive. -/
def backwardTree : DescriptionTree :=
  [.project ⟨0, 7⟩ (.word ⟨"P", ⟨8, 9⟩⟩),
    .template ⟨10, 18⟩ ⟨"T", ⟨19, 20⟩⟩ none ⟨21, 22⟩
      [⟨⟨⟨"A", ⟨23, 24⟩⟩, ⟨⟨25, 26⟩, none, ⟨26, 27⟩⟩⟩, none⟩] ⟨28, 29⟩,
    .system ⟨30, 36⟩ ⟨"S", ⟨37, 38⟩⟩ none ⟨39, 40⟩ (some ⟨⟨.entities, ⟨41, 49⟩⟩, ⟨49, 50⟩,
      ⟨⟨51, 52⟩, some ⟨⟨"T", ⟨52, 53⟩⟩, [], none⟩, ⟨53, 54⟩⟩, none⟩) ⟨55, 56⟩]

theorem compileSource_ignores_interleaving_forward :
    ((scan forwardSource).faults = [] ∧ forwardTree.tokens = (scan forwardSource).tokens) ∧
    ((scan backwardSource).faults = [] ∧ backwardTree.tokens = (scan backwardSource).tokens) ∧
    (forwardTree.projects.length = 1 ∧
      ∀ kind, forwardTree.written kind = backwardTree.written kind) ∧
    compileSource {} forwardSource = compileSource {} backwardSource ∧
    ∃ output, (compileSource {} forwardSource).outcome = .ok output ∧
      output.systems.map Artifact.name = ["S"] := by
  have hsource : (scan forwardSource).faults = [] := by decide +kernel
  have hother : (scan backwardSource).faults = [] := by decide +kernel
  have hd : forwardTree.tokens = (scan forwardSource).tokens := by decide +kernel
  have he : backwardTree.tokens = (scan backwardSource).tokens := by decide +kernel
  have hwritten : ∀ kind, forwardTree.written kind = backwardTree.written kind := by
    intro kind
    cases kind <;> decide +kernel
  obtain ⟨output, houtput, hsystems⟩ : ∃ output,
      (compileSource {} forwardSource).outcome = .ok output ∧
        output.systems.map Artifact.name = ["S"] :=
    Run.exists_ok_of_map_eq (by decide +kernel)
  obtain ⟨hsame, -⟩ := compileSource_ignores_interleaving {} hsource hother hd he rfl hwritten
  exact ⟨⟨hsource, hd⟩, ⟨hother, he⟩, ⟨rfl, hwritten⟩, hsame, output, houtput, hsystems⟩

end EntityForge
