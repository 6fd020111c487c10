import EntityForge.Text.Span
import EntityForge.Literal

/-! # Programs

What a description says: components with default properties, templates that assemble components into
entities, and systems that work on every entity with the components they require. Every name keeps
the place where it is written.

* `Declaration`: one declaration, in the order of the source.
* `Program`: the declarations sorted by kind, with the name of the project. -/

namespace EntityForge

/-- A name and where it is written. -/
abbrev Name := Located String

/-- **A component** with its properties: a declaration, or an instance inside a template. -/
structure Component where
  name : Name
  properties : List Property
  deriving DecidableEq, Repr

/-- **A template** for entities. It has the component instances of its parent, then its own. -/
structure Template where
  name : Name
  parent : Option Name
  instances : List Component
  deriving DecidableEq, Repr

/-- How a system names what it requires. -/
inductive RequirementKind where
  | components
  | entities
  deriving DecidableEq, Repr

/-- **What a system requires:** components, or all components of some templates. -/
structure Requirement where
  kind : RequirementKind
  names : List Name
  deriving DecidableEq, Repr

/-- **A system,** with the base class it asks for. -/
structure System where
  name : Name
  parent : Option Name
  requirement : Requirement
  deriving DecidableEq, Repr

/-- **One declaration.** A project declaration also keeps the span of the whole of it. -/
inductive Declaration where
  | project (name : Name) (span : Span)
  | component (c : Component)
  | template (t : Template)
  | system (s : System)
  deriving DecidableEq, Repr

/-- **A whole description.** -/
structure Program where
  name : Name
  components : List Component
  templates : List Template
  systems : List System
  deriving DecidableEq, Repr

end EntityForge
