import EntityForge.Grammar.Parse
import EntityForge.Build.Components
import EntityForge.Build.Systems

/-! # Compilation

From a description to its files: the components first, then the templates and the factory, then the
systems, which may name templates declared after them.

* `Output`: what a compilation produces.
* `compile`: compiles a program.
* `readProgram`: reads a program from its source text.
* `compileSource`: compiles a source text and reports a failure. -/

namespace EntityForge

/-- **What a compilation produces.** -/
structure Output where
  projectName : String
  components : List Artifact
  systems : List Artifact
  factory : Artifact
  warnings : List Warning
  rejected : List String
  deriving DecidableEq, Repr

/-- All files: components, then systems, then the factory. -/
def Output.artifacts (o : Output) : List Artifact :=
  o.components ++ o.systems ++ [o.factory]

/-- Whether no system was rejected. -/
def Output.allAccepted (o : Output) : Bool :=
  o.rejected.isEmpty

/-- The files of a program and its rejected systems, without the warnings. -/
def buildProgram (config : Config) (p : Program) :
    Run (List Artifact × Catalog × List Artifact × List String) := do
  let components ← buildComponents config .empty p.components
  let catalog ← buildTemplates config .empty p.templates
  let (systems, rejected) ← buildSystems config catalog.known .empty p.systems
  pure (components, catalog, systems, rejected)

/-- **Compiles a program.** -/
def compile (config : Config) (p : Program) : Run Output :=
  let run := buildProgram config p
  ⟨run.events, run.warnings, run.outcome.map fun (components, catalog, systems, rejected) =>
    { projectName := p.name.val
      components := components
      systems := systems
      factory := factoryArtifact config catalog
      warnings := run.warnings
      rejected := rejected }⟩

/-! ### From source text -/

/-- **Reads a program.** The first fault of the scanner wins over any fault of the grammar. -/
def readProgram (source : String) : Except SourceError Program :=
  let scanned := scan source
  match scanned.faults with
  | f :: _ => .error (.at source f.span f.val.message)
  | [] =>
    match parseDescription scanned.tokens with
    | .ok p => .ok p
    | .error fs => .error (.at source fs.first.span fs.first.val.message)

/-- A run that also reports how it failed. -/
def Run.withFailure {α : Type} (r : Run α) : Run α :=
  match r.outcome with
  | .error e => { r with events := r.events ++ [.ofFailure e] }
  | .ok _ => r

/-- **Compiles a source text** and reports a failure. -/
def compileSource (config : Config) (source : String) : Run Output :=
  Run.withFailure <|
    match readProgram source with
    | .error e => Run.fail (.malformed e)
    | .ok p => compile config p

end EntityForge
