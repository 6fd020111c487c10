import EntityForge.Program
import EntityForge.Naming
import EntityForge.Build.Templates
import EntityForge.Script.SystemModule

/-! # Systems

A system works on every entity that has the components it requires. A system that requires nothing
is rejected: it has no file, and the build goes on.

* `baseOf`: the base class of a system.
* `requirementOf`: the components it requires.
* `buildSystems`: the files of the accepted systems, and the names of the rejected ones. -/

namespace EntityForge

/-- **The base class of a system.** Only the two-dimensional runtime lets a system choose. -/
def baseOf (config : Config) (s : System) : Run (Option BaseClass) :=
  match config.variant, s.parent with
  | .spatial, some _ => do
    warn config (.ignoredParent s.name.val)
    pure (some .system)
  | .spatial, none => pure (some .system)
  | .flat, none => pure none
  | .flat, some parent =>
    match BaseClass.ofParent? parent.val with
    | some base => pure (some base)
    | none => Run.fail (.unknownBase s.name.val parent.val)

/-- **The components a system requires,** each once. A template that is not declared adds none. -/
def requirementOf (known : Table String Resolved) (r : Requirement) : List String :=
  match r.kind with
  | .components => (r.names.map (·.val)).eraseDups
  | .entities =>
    (r.names.flatMap fun n =>
      match known.find? n.val with
      | some resolved => resolved.keys
      | none => []).eraseDups

/-- The file of a system. -/
def systemArtifact (config : Config) (s : System) (base : Option BaseClass)
    (required : List String) : Artifact where
  name := s.name.val
  file := scriptFile s.name.val
  source := Script.systemModule config.variant.runtimeModule s.name.val base required
  kind := .system base

/-- **The files of the accepted systems and the names of the rejected ones,** given the files
claimed so far. -/
def buildSystems (config : Config) (known : Table String Resolved) (claims : Table String String) :
    List System → Run (List Artifact × List String)
  | [] => pure ([], [])
  | s :: ss => do
    let base ← baseOf config s
    let required := requirementOf known s.requirement
    if required = [] then
      Run.emit (.rejected (.emptyRequirement s.name.val))
      let (accepted, rejected) ← buildSystems config known claims ss
      pure (accepted, s.name.val :: rejected)
    else
      let claims ← claim config "System" s.name.val (scriptFile s.name.val) claims
      let (accepted, rejected) ← buildSystems config known claims ss
      pure (systemArtifact config s base required :: accepted, rejected)

end EntityForge
