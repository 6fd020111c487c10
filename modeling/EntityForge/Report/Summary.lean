import EntityForge.Event
import EntityForge.Report.Document

/-! # Reports as documents

A summary collects the events of a build and is written once the build is complete. A failure is
written at once, as a document of its own, because no completion follows it.

* `Summary`: what has been collected.
* `Summary.toDocument`: the summary as a document; an empty list of errors and a file that was not
  skipped leave no trace in it.
* `Summary.observe`: the summary after an event, and the document that the event calls for. -/

namespace EntityForge

/-- A component or system of a summary. -/
structure SummaryEntry where
  name : String
  file : String
  skipped : Bool
  deriving DecidableEq, Repr

/-- The factory of a summary. -/
structure SummaryFactory where
  file : String
  creators : List Creator
  skipped : Bool
  deriving DecidableEq, Repr

/-- **What has been collected** of a build. -/
structure Summary where
  projectName : String := ""
  warnings : List String := []
  errors : List String := []
  components : List SummaryEntry := []
  systems : List SummaryEntry := []
  factory : Option SummaryFactory := none
  deriving DecidableEq, Repr, Inhabited

/-! ### Documents -/

/-- The mark of a skipped file. -/
def skipField (skipped : Bool) : List (String × Document) :=
  if skipped then [("skipped", .bool true)] else []

/-- A component or system as a document. -/
def SummaryEntry.toDocument (e : SummaryEntry) : Document :=
  .record ([("name", .string e.name), ("filename", .string e.file)] ++ skipField e.skipped)

/-- A function of the factory as a document. -/
def Creator.toDocument (f : Creator) : Document :=
  .record [("entityType", .string f.template), ("functionName", .string f.name)]

/-- The factory as a document. -/
def SummaryFactory.toDocument (f : SummaryFactory) : Document :=
  .record ([("filename", .string f.file), ("functions", .list (f.creators.map (·.toDocument)))]
    ++ skipField f.skipped)

/-- **A summary as a document.** -/
def Summary.toDocument (s : Summary) : Document :=
  .record
    ([("projectName", .string s.projectName), ("warnings", .list (s.warnings.map .string))]
      ++ (if s.errors = [] then [] else [("errors", .list (s.errors.map .string))])
      ++ [("components", .list (s.components.map (·.toDocument))),
        ("systems", .list (s.systems.map (·.toDocument))),
        ("factory",
          match s.factory with
          | some f => f.toDocument
          | none => .null)])

/-- The document of malformed source. -/
def SourceError.toDocument (e : SourceError) : Document :=
  .record [("error", .record [("message", .string e.message), ("line", .number e.position.line),
    ("column", .number e.position.column)])]

/-- The document of a failure. -/
def BuildError.toDocument (e : BuildError) : Document :=
  .record [("error", .record [("message", .string e.message)])]

/-! ### Collecting -/

/-- The entry of an artifact. -/
def SummaryEntry.ofArtifact (a : Artifact) (skipped : Bool) : SummaryEntry :=
  ⟨a.name, a.file, skipped⟩

/-- **The summary after an event.** -/
def Summary.add (s : Summary) : Event → Summary
  | .warning message => { s with warnings := s.warnings ++ [message] }
  | .rejected e => { s with errors := s.errors ++ [e.message] }
  | .component a skipped => { s with components := s.components ++ [.ofArtifact a skipped] }
  | .system a skipped => { s with systems := s.systems ++ [.ofArtifact a skipped] }
  | .factory a skipped => { s with factory := some ⟨a.file, a.creators, skipped⟩ }
  | .completed project => { s with projectName := project }
  | .malformed _ | .failed _ => s

/-- **The document that an event calls for,** given the summary after it. -/
def Summary.document? (s : Summary) : Event → Option Document
  | .completed _ => some s.toDocument
  | .malformed e => some e.toDocument
  | .failed e => some e.toDocument
  | _ => none

end EntityForge
