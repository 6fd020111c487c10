import EntityForge.Artifact
import EntityForge.Fault

/-! # Events of a build

A build says what happens as a list of events; how they are shown is left to the report. A rejected
declaration does not end a build, a failure does. -/

namespace EntityForge

/-- **Something that happened** during a build. A component, system or factory that is skipped was
already there and has been kept. -/
inductive Event where
  | warning (message : String)
  | malformed (e : SourceError)
  | failed (e : BuildError)
  | rejected (e : BuildError)
  | component (a : Artifact) (skipped : Bool)
  | system (a : Artifact) (skipped : Bool)
  | factory (a : Artifact) (skipped : Bool)
  | completed (project : String)
  deriving DecidableEq, Repr

namespace Event

/-- The event of an artifact, by its kind. -/
def ofArtifact (a : Artifact) (skipped : Bool) : Event :=
  match a.kind with
  | .component => component a skipped
  | .system _ => system a skipped
  | .factory _ => factory a skipped

/-- The event of a failure. Malformed source has an event of its own. -/
def ofFailure : BuildError → Event
  | .malformed e => malformed e
  | e => failed e

/-- The message of a warning. -/
def warning? : Event → Option String
  | warning message => some message
  | _ => none

/-- Whether an event ends a build successfully. -/
def isCompleted : Event → Bool
  | completed _ => true
  | _ => false

end Event

end EntityForge
