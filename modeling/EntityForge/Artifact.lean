import EntityForge.Settings

/-! # Artifacts

The files that a build produces, before they are written anywhere.

* `Artifact`: a file with its text and what it holds.
* `Artifact.outputPath`: where it goes under the output directory. -/

namespace EntityForge

/-- A function of the factory: the template it serves, and its name. -/
structure Creator where
  template : String
  name : String
  deriving DecidableEq, Repr

/-- What an artifact holds. -/
inductive ArtifactKind where
  | component
  | system (base : Option BaseClass)
  | factory (creators : List Creator)
  deriving DecidableEq, Repr

/-- **A generated file.** -/
structure Artifact where
  name : String
  file : String
  source : String
  kind : ArtifactKind
  deriving DecidableEq, Repr

namespace Artifact

/-- The path under the output directory. -/
def outputPath (a : Artifact) : String :=
  match a.kind with
  | .component => "components/" ++ a.file
  | .system _ => "systems/" ++ a.file
  | .factory _ => a.file

/-- The word that a report puts before the name. -/
def label (a : Artifact) : String :=
  match a.kind with
  | .component => "Component"
  | .system (some base) => base.exportName
  | .system none => "System"
  | .factory _ => "Factory"

/-- The functions of a factory; other artifacts have none. -/
def creators (a : Artifact) : List Creator :=
  match a.kind with
  | .factory creators => creators
  | _ => []

end Artifact

end EntityForge
