import EntityForge.Table
import EntityForge.Text.Span
import EntityForge.Script.Statement

/-! # The factory module

One file creates the entities of all templates. It requires every component that some template uses,
the shortest paths first.

* `Script.Blueprint`: a template with its components.
* `Script.factoryImports`: the imports in their order.
* `Script.factoryModule`: the whole file. -/

namespace EntityForge.Script

/-- **A template with its components** and the properties each of them is given. -/
structure Blueprint where
  template : String
  components : Table String (List Property)
  deriving DecidableEq, Repr

/-- The name of the function that creates an entity. -/
def creatorName (template : String) : String :=
  "create" ++ template

/-- The statement that adds one component to an entity. -/
def addComponent (component : String × List Property) : String :=
  "\t\tentity.addComponent(new " ++ component.1 ++ "("
    ++ (Literal.object component.2).render 3 ++ "));"

/-- The function that creates an entity. -/
def creatorText (entry : Blueprint) : String :=
  "\n".intercalate
    (["\t" ++ creatorName entry.template ++ ": function() \x7b",
        "\t\tvar entity = World.createEntity();"]
      ++ entry.components.pairs.map addComponent ++ ["\t\treturn entity;", "\t\x7d"])

/-- The order of imports: by the length of the path in bytes, then by the path. -/
def shorterPath (a b : Import) : Bool :=
  let m := byteLength a.path.toList
  let n := byteLength b.path.toList
  m < n || m == n && decide (a.path ≤ b.path)

/-- **The imports of the factory,** the world first. -/
def factoryImports (runtime : String) (files : Table String String) : List Import :=
  Import.named "World" runtime
    :: (files.pairs.map fun f => Import.whole f.1 ("./components/" ++ f.2)).mergeSort shorterPath

/-- The object that holds the functions. -/
def factoryObject (entries : List Blueprint) : String :=
  if entries = [] then "var Factory = \x7b\x7d;"
  else "var Factory = \x7b\n" ++ ",\n\n".intercalate (entries.map creatorText) ++ "\n\x7d;"

/-- **The factory file.** -/
def factoryModule (runtime : String) (entries : List Blueprint) (files : Table String String) :
    String :=
  importBlock (factoryImports runtime files) ++ "\n\n" ++ factoryObject entries ++ "\n\n"
    ++ exportStatement "Factory" ++ "\n"

end EntityForge.Script
