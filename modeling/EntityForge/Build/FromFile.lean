import EntityForge.Include
import EntityForge.Build.Compile

/-! # Compiling a file

A source file is loaded with all its includes and compiled. A file that cannot be loaded is reported
like any other failure. -/

namespace EntityForge

/-- **Compiles a source file** and reports a failure. -/
def compileFrom (config : Config) (store : Store) (path : String) : Run Output :=
  match readSource store path with
  | .error e => Run.withFailure (Run.fail e)
  | .ok source => compileSource config source

end EntityForge
