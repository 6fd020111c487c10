import EntityForge.Build.Compile
import EntityForge.Store.Basic

/-! # Saving

The artifacts of a build are written by tasks that run side by side, one for each artifact. In which
order they run, and in which order they are joined afterwards, is not fixed: a schedule says it,
step by step. A task is reported when it is joined, and the first failure that is joined ends the
saving; a task that has not run by then never does. Directories and files may have faults that the
store does not know of.

* `Step`, `Schedule`: the order of events.
* `WriteFault`, `Faults`: what may go wrong on the disk.
* `writeArtifact`: what one task does.
* `SaveState.run`: carries out a schedule.
* `save`: makes the directories and writes all artifacts. -/

namespace EntityForge

/-! ### Schedules -/

/-- One thing that happens: the task of an artifact runs, or its result is taken. -/
inductive Step where
  | write (index : Nat)
  | join (index : Nat)
  deriving DecidableEq, Repr

/-- **The order in which tasks run and are joined.** -/
abbrev Schedule := List Step

/-- The schedule that handles `n` artifacts one after the other. -/
def Schedule.inOrder (n : Nat) : Schedule :=
  (List.range n).flatMap fun i => [.write i, .join i]

/-- The artifacts whose tasks run, in order. -/
def Schedule.writes (schedule : Schedule) : List Nat :=
  schedule.filterMap fun
    | .write i => some i
    | .join _ => none

/-- The artifacts whose tasks are joined, in order. -/
def Schedule.joins (schedule : Schedule) : List Nat :=
  schedule.filterMap fun
    | .join i => some i
    | .write _ => none

/-- **A schedule for `n` artifacts:** every task runs once, and is joined once after it has run. -/
structure Schedule.Valid (n : Nat) (schedule : Schedule) : Prop where
  writes : schedule.writes.Perm (List.range n)
  joins : schedule.joins.Perm (List.range n)
  ordered : ∀ before i after, schedule = before ++ .join i :: after → .write i ∈ before

/-! ### Faults -/

/-- **A fault of the disk while a file is written.** Either the file cannot be opened, or only its
first bytes are written. That a file is there already is no fault: it is for the store to tell. -/
inductive WriteFault where
  | unopened (cause : OsError) (genuine : cause ≠ .alreadyExists)
  | interrupted (cause : OsError) (length : Nat)
  deriving Repr

/-- **The faults during a saving:** by the number of an artifact those of its task, and by its path
those of a directory. A task that is given up midway is one that is interrupted and not joined. -/
structure Faults where
  write : Nat → Option WriteFault := fun _ => none
  directory : String → Option Store.DirectoryFault := fun _ => none

/-! ### Tasks -/

/-- **What the task of an artifact does:** the store after it, and whether the file was skipped. A
file that is there already is kept unless files are to be overwritten. -/
def writeArtifact (root : String) (overwrite : Bool) (store : Store) (a : Artifact)
    (fault : Option WriteFault := none) : Store × Except BuildError Bool :=
  let path := joinPath root a.outputPath
  let failed cause := .error (.inaccessible path cause)
  match fault with
  | some (.unopened cause _) => (store, failed cause)
  | _ =>
    match store.openFile path overwrite with
    | .error .alreadyExists => (store, .ok true)
    | .error e => (store, failed e)
    | .ok p =>
      match fault with
      | some (.interrupted cause length) =>
        (store.put p (.file (.ofBytes (a.source.toUTF8.data.toList.take length))), failed cause)
      | _ => (store.put p (.file (.text a.source)), .ok false)

/-- How many files were written and skipped. -/
structure Counts where
  written : Nat := 0
  skipped : Nat := 0
  deriving DecidableEq, Repr

/-- One more file. -/
def Counts.add (c : Counts) (skipped : Bool) : Counts :=
  if skipped then { c with skipped := c.skipped + 1 } else { c with written := c.written + 1 }

/-- **What a saving comes to:** the store after it, the events, and how it ended. -/
structure Saved where
  store : Store
  events : List Event
  outcome : Except BuildError Counts
  deriving Repr

/-- The tasks that have run: for every artifact its result, and whether it was skipped. -/
abbrev Finished := Table Nat (Except BuildError Bool)

/-- The state in the midst of a saving. -/
structure SaveState where
  store : Store
  finished : Finished := .empty
  events : List Event := []
  counts : Counts := {}
  deriving Repr

/-- The state after the task of an artifact has run. -/
def SaveState.write (s : SaveState) (root : String) (overwrite : Bool) (i : Nat) (a : Artifact)
    (fault : Option WriteFault) : SaveState :=
  let done := writeArtifact root overwrite s.store a fault
  { s with store := done.1, finished := s.finished.insert i done.2 }

/-- **Carries out a schedule.** Steps without an artifact or without a result do nothing. -/
def SaveState.run (output : Output) (root : String) (overwrite : Bool) (faults : Faults)
    (s : SaveState) : Schedule → Saved
  | [] => ⟨s.store, s.events ++ [.completed output.projectName], .ok s.counts⟩
  | .write i :: rest =>
    match output.artifacts[i]? with
    | some a =>
      SaveState.run output root overwrite faults (s.write root overwrite i a (faults.write i)) rest
    | none => SaveState.run output root overwrite faults s rest
  | .join i :: rest =>
    match output.artifacts[i]?, s.finished.find? i with
    | some a, some (.ok skipped) =>
      SaveState.run output root overwrite faults
        { s with
          events := s.events ++ [.ofArtifact a skipped]
          counts := s.counts.add skipped } rest
    | some _, some (.error e) => ⟨s.store, s.events ++ [.failed e], .error e⟩
    | _, _ => SaveState.run output root overwrite faults s rest

/-! ### Saving -/

/-- Makes directories one after the other; the first failure ends it and tells which one. -/
def makeEach (store : Store) (paths : List String) (faults : Faults := {}) :
    Store × Except BuildError Unit :=
  match paths with
  | [] => (store, .ok ())
  | path :: rest =>
    match store.makeDirectories path (faults.directory path) with
    | (store, .ok ()) => makeEach store rest faults
    | (store, .error e) => (store, .error (.inaccessible path e))

/-- **Writes all artifacts of a build** below a directory, in the order of a schedule. -/
def save (output : Output) (root : String) (overwrite : Bool) (schedule : Schedule)
    (store : Store) (faults : Faults := {}) : Saved :=
  match makeEach store [joinPath root "components", joinPath root "systems"] faults with
  | (store, .error e) => ⟨store, [.failed e], .error e⟩
  | (store, .ok ()) => SaveState.run output root overwrite faults { store := store } schedule

end EntityForge
