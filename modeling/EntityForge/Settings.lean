/-! # Settings

What can be chosen for a build: the runtime it targets, what a warning does, and what happens to
files that are already there.

* `Variant`: the two-dimensional or the three-dimensional runtime.
* `BaseClass`: the classes of the runtime that generated classes derive from.
* `Config`: the settings of one build.
* `ReportFormat`: how a build is reported. -/

namespace EntityForge

/-- A text that names no setting. -/
inductive SettingFault where
  | variant (text : String)
  | reportFormat (text : String)
  deriving DecidableEq, Repr

/-- The wording of a fault. -/
def SettingFault.message : SettingFault → String
  | variant text => "unknown target variant: \"" ++ text ++ "\" (expected 2d or 3d)"
  | reportFormat text =>
    "invalid reporter: \"" ++ text ++ "\". Use: default, json, json-pretty"

/-- **The runtime** that a build targets. -/
inductive Variant where
  | flat
  | spatial
  deriving DecidableEq, Repr, Inhabited

namespace Variant

/-- The short name of a variant. -/
def display : Variant → String
  | flat => "2d"
  | spatial => "3d"

/-- The module that generated code requires. -/
def runtimeModule : Variant → String
  | flat => "psykick2d"
  | spatial => "psykick3d"

/-- Whether a system may choose its base class. -/
def honorsParents : Variant → Bool
  | flat => true
  | spatial => false

/-- The variant that a text names, in any mixture of ASCII letter case. A fault shows the text in
lower case. -/
def ofText (text : String) : Except SettingFault Variant :=
  let lowered := String.ofList (text.toList.map Char.toLower)
  if lowered = "2d" then .ok flat
  else if lowered = "3d" then .ok spatial
  else .error (.variant lowered)

end Variant

/-- **A class of the runtime.** -/
inductive BaseClass where
  | component
  | system
  | renderSystem
  | behaviorSystem
  deriving DecidableEq, Repr, Inhabited

namespace BaseClass

/-- The name under which the runtime exports a class. -/
def exportName : BaseClass → String
  | component => "Component"
  | system => "System"
  | renderSystem => "RenderSystem"
  | behaviorSystem => "BehaviorSystem"

/-- The class that a declared system parent names. Only two classes can be named. -/
def ofParent? (name : String) : Option BaseClass :=
  if name = "RenderSystem" then some renderSystem
  else if name = "BehaviorSystem" then some behaviorSystem
  else none

end BaseClass

/-- **The settings of a build.** A lenient build carries on after a warning; any other stops at the
first one. -/
structure Config where
  variant : Variant := .flat
  lenient : Bool := false
  overwrite : Bool := false
  deriving DecidableEq, Repr, Inhabited

/-- Whether a warning stops the build. -/
def Config.stopsOnWarning (config : Config) : Bool :=
  !config.lenient

/-- **How a build is reported:** as lines, or as a document in compact or indented form. -/
inductive ReportFormat where
  | transcript
  | document
  | indented
  deriving DecidableEq, Repr, Inhabited

namespace ReportFormat

/-- The name of a format. -/
def display : ReportFormat → String
  | transcript => "default"
  | document => "json"
  | indented => "json-pretty"

/-- The format that a text names. -/
def ofText (text : String) : Except SettingFault ReportFormat :=
  if text = "default" ∨ text = "console" then .ok transcript
  else if text = "json" then .ok document
  else if text = "json-pretty" then .ok indented
  else .error (.reportFormat text)

end ReportFormat

end EntityForge
