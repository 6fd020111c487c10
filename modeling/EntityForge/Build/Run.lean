import EntityForge.Event
import EntityForge.Table

/-! # Runs

A run is a computation that reports events and warnings while it goes on, and that may fail. What
was reported before a failure stays reported.

* `Run`: the events, the warnings that were passed over, and the outcome.
* `Warning`: what a build warns about, `Warning.message` its wording.
* `warn`: reports a warning, and fails if the settings say so. -/

namespace EntityForge

/-- **What a build warns about.** -/
inductive Warning where
  | sharedFile (label name first file : String)
  | redeclared (template : String)
  | ignoredParent (system : String)
  deriving DecidableEq, Repr

/-- The wording of a warning. -/
def Warning.message : Warning → String
  | sharedFile label name first file =>
    label ++ " '" ++ name ++ "' and '" ++ first ++ "' both generate '" ++ file
      ++ "'; the later one wins"
  | redeclared template =>
    "Template '" ++ template ++ "' is declared more than once; the later one wins"
  | ignoredParent system => "Ignoring system inheritance on '" ++ system ++ "'"

/-- **A computation with its reports.** -/
structure Run (α : Type) where
  events : List Event
  warnings : List Warning
  outcome : Except BuildError α
  deriving Repr

namespace Run

/-- The run that only gives a value. -/
protected def pure {α : Type} (a : α) : Run α :=
  ⟨[], [], .ok a⟩

/-- One run after the other; a failure ends both. -/
protected def bind {α β : Type} (r : Run α) (f : α → Run β) : Run β :=
  match r.outcome with
  | .error e => ⟨r.events, r.warnings, .error e⟩
  | .ok a =>
    let next := f a
    ⟨r.events ++ next.events, r.warnings ++ next.warnings, next.outcome⟩

instance : Monad Run where
  pure := Run.pure
  bind := Run.bind

@[simp] theorem pure_eq {α : Type} (a : α) : (pure a : Run α) = ⟨[], [], .ok a⟩ := rfl

theorem bind_ok {α β : Type} (es : List Event) (ws : List Warning) (a : α) (f : α → Run β) :
    ((⟨es, ws, .ok a⟩ : Run α) >>= f)
      = ⟨es ++ (f a).events, ws ++ (f a).warnings, (f a).outcome⟩ := rfl

theorem bind_error {α β : Type} (es : List Event) (ws : List Warning) (e : BuildError)
    (f : α → Run β) : ((⟨es, ws, .error e⟩ : Run α) >>= f) = ⟨es, ws, .error e⟩ := rfl

/-- The run that only fails. -/
def fail {α : Type} (e : BuildError) : Run α :=
  ⟨[], [], .error e⟩

/-- The run that only reports an event. -/
def emit (e : Event) : Run Unit :=
  ⟨[e], [], .ok ()⟩

end Run

/-- **Reports a warning.** It fails where a warning stops the build. -/
def warn (config : Config) (w : Warning) : Run Unit :=
  if config.stopsOnWarning then
    ⟨[.warning w.message], [], .error (.stoppedOnWarning w.message)⟩
  else ⟨[.warning w.message], [w], .ok ()⟩

/-- Notes which name claims a file, given the first claimants so far. A file that is claimed already
gives a warning and keeps its first claimant. -/
def claim (config : Config) (label name file : String) (claims : Table String String) :
    Run (Table String String) :=
  match claims.find? file with
  | some first => do
    warn config (.sharedFile label name first file)
    pure claims
  | none => pure (claims.insert file name)

end EntityForge
