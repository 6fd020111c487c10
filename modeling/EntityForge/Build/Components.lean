import EntityForge.Program
import EntityForge.Naming
import EntityForge.Build.Run
import EntityForge.Script.ComponentModule

/-! # Components

Every component declaration gives one file. Two declarations that lead to the same file name give a
warning. -/

namespace EntityForge

/-- The file of a component. -/
def componentArtifact (config : Config) (c : Component) : Artifact where
  name := c.name.val
  file := scriptFile c.name.val
  source := Script.componentModule config.variant.runtimeModule c.name.val c.properties
  kind := .component

/-- **The files of components,** given the files claimed so far. -/
def buildComponents (config : Config) (claims : Table String String) :
    List Component → Run (List Artifact)
  | [] => pure []
  | c :: cs => do
    let claims ← claim config "Component" c.name.val (scriptFile c.name.val) claims
    let rest ← buildComponents config claims cs
    pure (componentArtifact config c :: rest)

end EntityForge
