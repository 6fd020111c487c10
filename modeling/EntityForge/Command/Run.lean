import EntityForge.Include
import EntityForge.Save
import EntityForge.Excerpt
import EntityForge.Report.Reporter
import EntityForge.Command.Arguments

/-! # The command

A build from end to end: the source is loaded, compiled and saved. The events go to a reporter on
standard output, and one line about a failure to standard error; the exit code follows it.

* `Ending`: how a build ends.
* `build`: carries out a request on a store.
* `execute`: does what a list of arguments asks for. -/

namespace EntityForge.Command

/-- **How a build ends.** -/
inductive Ending where
  | succeeded
  | notLoaded (e : BuildError)
  | notCompiled (source : String) (e : BuildError)
  | notSaved (e : BuildError)
  | rejected (systems : List String)
  deriving DecidableEq, Repr

/-- The line about a build that did not succeed. -/
def Ending.message? : Ending → Option String
  | succeeded => none
  | notLoaded e | notCompiled _ e | notSaved e => some e.message
  | rejected systems =>
    some (toString systems.length ++ " system(s) rejected: " ++ ", ".intercalate systems)

/-- **What a build comes to:** its events, its end, and the store after it. -/
structure Built where
  events : List Event
  ending : Ending
  store : Store
  deriving Repr

/-- How a build ends after its output is saved. -/
def endingOf (output : Output) (outcome : Except BuildError Counts) : Ending :=
  match outcome with
  | .error e => .notSaved e
  | .ok _ => if output.allAccepted then .succeeded else .rejected output.rejected

/-- **Carries out a request.** The order of saving is given for every number of artifacts. -/
def build (request : Request) (schedule : Nat → Schedule) (store : Store) (faults : Faults := {}) :
    Built :=
  match readSource store request.source with
  | .error e => ⟨[.ofFailure e], .notLoaded e, store⟩
  | .ok source =>
    let run := compileSource request.config source
    match run.outcome with
    | .error e => ⟨run.events, .notCompiled source e, store⟩
    | .ok output =>
      let saved := save output request.output request.config.overwrite
        (schedule output.artifacts.length) store faults
      ⟨run.events ++ saved.events, endingOf output saved.outcome, saved.store⟩

/-- The excerpt that lines are followed by when a source does not compile. -/
def excerptOf (request : Request) (ending : Ending) : String :=
  match request.format, ending with
  | .transcript, .notCompiled source (.malformed e) => Excerpt.render source request.source e
  | _, _ => ""

/-- **What a command leaves behind.** -/
structure Executed where
  exitCode : Nat
  out : String
  err : String
  store : Store
  deriving Repr

/-- The text of the version. -/
def versionText : String :=
  "cvt 0.1.0\n"

/-- **Does what arguments ask for.** A mistake in them has an exit code of its own. -/
def execute (args : List String) (store : Store) (schedule : Nat → Schedule := Schedule.inOrder)
    (faults : Faults := {}) : Executed :=
  match Action.ofArguments args with
  | .error misuse => ⟨2, "", "error: " ++ misuse.message ++ "\n", store⟩
  | .ok .version => ⟨0, versionText, "", store⟩
  | .ok (.build request) =>
    let built := build request schedule store faults
    let (_, out) := Reporter.observeAll { format := request.format } built.events
    match built.ending.message? with
    | none => ⟨0, out, "", built.store⟩
    | some message =>
      ⟨1, out, excerptOf request built.ending ++ "error: " ++ message ++ "\n", built.store⟩

end EntityForge.Command
