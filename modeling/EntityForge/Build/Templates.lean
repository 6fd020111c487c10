import EntityForge.Program
import EntityForge.Naming
import EntityForge.Build.Run
import EntityForge.Script.FactoryModule

/-! # Templates

A template has the component instances of its parent and then its own; an instance of a component
that is already there replaces its properties and keeps its place. Templates are resolved in the
order of their declarations, so a parent has to be declared before its children, and the latest
declaration of a name is the one that counts.

* `resolve`: the components of one template.
* `Catalog`: what the templates so far have built up.
* `buildTemplates`: resolves all templates.
* `factoryArtifact`: the factory file for a catalog. -/

namespace EntityForge

/-- **The components of an entity** with the properties each of them is given. -/
abbrev Resolved := Table String (List Property)

/-- The components of a parent with instances added. -/
def addInstances (base : Resolved) (instances : List Component) : Resolved :=
  instances.foldl (fun r c => r.insert c.name.val c.properties) base

/-- **The components of a template,** given the templates before it. -/
def resolve (known : Table String Resolved) (t : Template) : Except BuildError Resolved :=
  match t.parent with
  | none => .ok (addInstances .empty t.instances)
  | some parent =>
    match known.find? parent.val with
    | some base => .ok (addInstances base t.instances)
    | none => .error (.undeclaredParent t.name.val parent.val)

/-- **What the templates have built up:** the resolved templates by name, the files of the
components they use, and one blueprint per declaration. -/
structure Catalog where
  known : Table String Resolved
  files : Table String String
  entries : List Script.Blueprint
  deriving DecidableEq, Repr

/-- The catalog before the first template. -/
def Catalog.empty : Catalog :=
  ⟨.empty, .empty, []⟩

/-- The files of used components, with those of one more template. -/
def addFiles (files : Table String String) (components : List String) :
    Table String String :=
  components.foldl (fun fs c => fs.insertNew c (scriptFile c)) files

/-- The catalog with one more template. -/
def Catalog.add (catalog : Catalog) (name : String) (resolved : Resolved) : Catalog where
  known := catalog.known.insert name resolved
  files := addFiles catalog.files resolved.keys
  entries := catalog.entries ++ [⟨name, resolved⟩]

/-- The catalog after one declaration. -/
def buildTemplate (config : Config) (catalog : Catalog) (t : Template) : Run Catalog :=
  match resolve catalog.known t with
  | .error e => Run.fail e
  | .ok resolved => do
    if (catalog.known.find? t.name.val).isSome then
      warn config (.redeclared t.name.val)
    pure (catalog.add t.name.val resolved)

/-- **Resolves all templates** in order. -/
def buildTemplates (config : Config) (catalog : Catalog) : List Template → Run Catalog
  | [] => pure catalog
  | t :: ts => do
    let catalog ← buildTemplate config catalog t
    buildTemplates config catalog ts

/-- **The factory file** for a catalog. -/
def factoryArtifact (config : Config) (catalog : Catalog) : Artifact where
  name := "Factory"
  file := "factory.js"
  source := Script.factoryModule config.variant.runtimeModule catalog.entries catalog.files
  kind := .factory (catalog.entries.map fun e =>
    ⟨e.template, Script.creatorName e.template⟩)

end EntityForge
