import EntityForge.Settings
import EntityForge.Script.Statement

/-! # System modules

The file of a system: a class that lists the components it requires. A system with a base class also
inherits from it and has the method that the runtime calls on every tick.

* `Script.requiredList`: the constructor with the list of required components.
* `Script.tickMethod`: the method for a base class.
* `Script.systemModule`: the whole file. -/

namespace EntityForge.Script

/-- The constructor of a system. -/
def requiredList (name : String) (required : List String) : String :=
  "var " ++ name ++ " = function() \x7b\n\tthis.requiredComponents = [\n"
    ++ commaLines (required.map fun c => "\t\t" ++ quote c) ++ "\n\t];\n\x7d;"

/-- The parts of a method that visits entities in some order. -/
structure Tick where
  summary : String
  method : String
  parameter : String
  parameterDoc : String
  order : String
  deriving DecidableEq, Repr

/-- What the runtime calls on a system: drawing for a render system, updating for any other. -/
def Tick.ofBase : BaseClass → Tick
  | .renderSystem =>
    ⟨"Draws every entity in draw order.", "draw", "c", "\x7bCanvasRenderingContext2D\x7d c",
      "drawOrder"⟩
  | _ =>
    ⟨"Updates every entity in action order.", "update", "delta",
      "\x7bnumber\x7d delta - Time since last update", "actionOrder"⟩

/-- **The method for a base class.** -/
def tickMethod (name : String) (base : BaseClass) : String :=
  let tick := Tick.ofBase base
  "/**\n * " ++ tick.summary ++ "\n * @param " ++ tick.parameterDoc ++ "\n */\n"
    ++ name ++ ".prototype." ++ tick.method ++ " = function(" ++ tick.parameter ++ ") \x7b\n"
    ++ "\tfor (var i = 0, len = this." ++ tick.order ++ ".length; i < len; i++) \x7b\n"
    ++ "\t\tvar entity = this." ++ tick.order ++ "[i];\n\t\x7d\n\x7d;"

/-- The sections of a system file. -/
def systemSections (runtime name : String) (base : Option BaseClass) (required : List String) :
    List String :=
  match base with
  | none => [requiredList name required, exportStatement name]
  | some b =>
    [importBlock [Import.named b.exportName runtime, Import.named "Helper" runtime],
      requiredList name required, inheritStatement name b.exportName, tickMethod name b,
      exportStatement name]

/-- **The file of a system.** -/
def systemModule (runtime name : String) (base : Option BaseClass) (required : List String) :
    String :=
  "\n\n".intercalate (systemSections runtime name base required) ++ "\n"

end EntityForge.Script
