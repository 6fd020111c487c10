import EntityForge.Text.Position

/-! # Errors

What can go wrong in a build, and how it is said.

* `SourceError`: malformed source text, with its place.
* `OsError`: why a file could not be reached.
* `BuildError`: any error that a build ends with. -/

namespace EntityForge

/-- **An error in a source text.** -/
structure SourceError where
  position : Position
  span : Span
  message : String
  deriving DecidableEq, Repr

/-- The error at a span of a given text. -/
def SourceError.at (source : String) (span : Span) (message : String) : SourceError :=
  ⟨Position.ofOffset source span.start, span, message⟩

/-- The error in one line. -/
def SourceError.display (e : SourceError) : String :=
  "Line " ++ toString e.position.line ++ ", Column " ++ toString e.position.column ++ ": "
    ++ e.message

/-- **Why a file could not be reached.** -/
inductive OsError where
  | notFound
  | alreadyExists
  | notDirectory
  | isDirectory
  | invalidText
  | invalidName
  | other (text : String)
  deriving DecidableEq, Repr

/-- The wording of such an error. -/
def OsError.message : OsError → String
  | notFound => "No such file or directory (os error 2)"
  | alreadyExists => "File exists (os error 17)"
  | notDirectory => "Not a directory (os error 20)"
  | isDirectory => "Is a directory (os error 21)"
  | invalidText => "stream did not contain valid UTF-8"
  | invalidName => "file name contained an unexpected NUL byte"
  | other text => text

/-- **What a build ends with** when it fails. -/
inductive BuildError where
  | malformed (e : SourceError)
  | undeclaredParent (template parent : String)
  | unknownBase (system base : String)
  | emptyRequirement (system : String)
  | stoppedOnWarning (message : String)
  | inaccessible (path : String) (cause : OsError)
  deriving DecidableEq, Repr

/-- The wording of a build error. -/
def BuildError.message : BuildError → String
  | malformed e => e.display
  | undeclaredParent template parent =>
    "Template parent '" ++ parent ++ "' not defined (extended by '" ++ template ++ "')"
  | unknownBase system base =>
    "Expected 'RenderSystem' or 'BehaviorSystem' but got '" ++ base ++ "' (system '" ++ system
      ++ "')"
  | emptyRequirement system =>
    "System '" ++ system ++ "' does not have required components or entities"
  | stoppedOnWarning message => "build aborted on warning: " ++ message
  | inaccessible path cause => "cannot access " ++ path ++ ": " ++ cause.message

end EntityForge
