import EntityForge.Script.Expression

/-! # Script statements

The statements that every generated file shares.

* `Script.Import`: a variable bound to a module, or to something a module exports.
* `Script.importBlock`: all imports of a file in one statement. -/

namespace EntityForge.Script

/-- **A variable bound to a module,** or to the one thing it exports that is named. -/
structure Import where
  name : String
  path : String
  exported : Option String
  deriving DecidableEq, Repr

/-- The import of an exported thing under its own name. -/
def Import.named (name path : String) : Import :=
  ⟨name, path, some name⟩

/-- The import of a whole module. -/
def Import.whole (name path : String) : Import :=
  ⟨name, path, none⟩

/-- One import. -/
def Import.render (i : Import) : String :=
  i.name ++ " = require(" ++ quote i.path ++ ")"
    ++ match i.exported with
      | some exported => "." ++ exported
      | none => ""

/-- **All imports of a file,** one on each line. -/
def importBlock (imports : List Import) : String :=
  "var " ++ ",\n    ".intercalate (imports.map Import.render) ++ ";"

/-- The statement that derives one class from another. -/
def inheritStatement (derived base : String) : String :=
  "Helper.inherit(" ++ derived ++ ", " ++ base ++ ");"

/-- The statement that exports a name. -/
def exportStatement (name : String) : String :=
  "module.exports = " ++ name ++ ";"

end EntityForge.Script
