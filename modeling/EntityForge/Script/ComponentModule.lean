import EntityForge.Script.Statement

/-! # Component modules

The file of a component: a constructor that merges its options over the declared defaults and copies
each of them to the new object.

* `Script.initializer`: the body of the constructor.
* `Script.optionsDoc`: its documentation.
* `Script.componentModule`: the whole file. -/

namespace EntityForge.Script

/-- The names of properties in order of first appearance. -/
def namesOnce (properties : List Property) : List String :=
  (properties.map (·.1)).eraseDups

/-- One default among the options. -/
def defaultLine (p : Property) : String :=
  "\t\t" ++ propertyName p.1 ++ ": " ++ p.2.render 3

/-- The statement that copies one option. -/
def assignment (name : String) : String :=
  "\t" ++ member "this" name ++ " = " ++ member "options" name ++ ";"

/-- **The body of a constructor.** -/
def initializer (properties : List Property) : String :=
  if properties = [] then "\toptions = Helper.defaults(options, \x7b\x7d);"
  else
    "\toptions = Helper.defaults(options, \x7b\n" ++ commaLines (properties.map defaultLine)
      ++ "\n\t\x7d);\n\n" ++ "\n".intercalate ((namesOnce properties).map assignment)

/-- The documentation of one property. Only a literal without parts is shown as default. -/
def parameterDoc (p : Property) : String :=
  " * @param \x7b" ++ p.2.kindName ++ "\x7d [options." ++ p.1
    ++ (if p.2.isSimple then "=" ++ p.2.render 0 else "") ++ "]"

/-- **The documentation of a constructor.** -/
def optionsDoc (properties : List Property) : String :=
  "\n".intercalate
    (["/**", " * @constructor", " * @param \x7bObject\x7d [options]"]
      ++ properties.map parameterDoc ++ [" */"])

/-- **The file of a component.** -/
def componentModule (runtime name : String) (properties : List Property) : String :=
  importBlock [Import.named "Component" runtime, Import.named "Helper" runtime] ++ "\n\n"
    ++ optionsDoc properties ++ "\n"
    ++ "var " ++ name ++ " = function(options) \x7b\n\tthis.NAME = " ++ quote name ++ ";\n\n"
    ++ initializer properties ++ "\n\x7d;\n\n"
    ++ inheritStatement name "Component" ++ "\n\n"
    ++ exportStatement name ++ "\n"

end EntityForge.Script
