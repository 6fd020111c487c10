import EntityForge.Command.Run

/-! # The program

The command works on a store. Here the part of the disk that it can reach is read into one, and what
the command has changed is written back: first the source with everything it includes, then, after a
trial, whatever stands where output would go. -/

namespace EntityForge.Main

/-- The number of the error for a directory that is read as a file. -/
def directoryCode : UInt32 :=
  21

/-- What the disk holds at a path. -/
def entryAt (p : Path) : IO (Option Entry) := do
  try
    let bytes ← IO.FS.readBinFile p.text
    return some (.file (.ofBytes bytes.toList))
  catch
    | .inappropriateType _ code _ => return if code = directoryCode then some .directory else none
    | _ => return none

/-- Takes over everything along some segments, as far as it exists. -/
def observeFrom (store : Store) (place : Path) : List String → IO Store
  | [] => return store
  | s :: rest => do
    if s = "" ∨ s = "." then observeFrom store place rest
    else if s = ".." then observeFrom store place.dropLast rest
    else
      let next := place ++ [.text s]
      match ← entryAt next with
      | some e => observeFrom (store.place next e) next rest
      | none => return store

/-- Takes over everything along a path text. -/
def observe (store : Store) (path : String) : IO Store :=
  observeFrom store (store.origin path) (segments path)

/-- The paths that the directives of a text name. -/
def includedPaths (text : List Char) : List String :=
  (Text.splitLines text).filterMap fun line =>
    match Directive.parse? (Text.lineBody line) with
    | some (.wellFormed _ path) => some path
    | _ => none

/-- Takes over all files that a text includes, directly or through others. -/
partial def observeIncludes (store : Store) (folder : String) (text : String) : IO Store := do
  let mut store := store
  for path in includedPaths text.toList do
    let path := joinPath folder path
    unless (store.resolve path).toOption.isSome do
      store ← observe store path
      if let .ok file := store.resolve path then
        if let .ok contents := store.readAt file then
          store ← observeIncludes store (Path.text file.dropLast) contents
  return store

/-- Takes over the source of a request and all that it includes. -/
def observeSource (store : Store) (request : Command.Request) : IO Store := do
  let store ← observe store request.source
  match store.readText request.source with
  | .ok text => observeIncludes store (Origin.ofFile request.source).folder text
  | .error _ => return store

/-- The entries of a store that another one does not have. -/
def changes (before after : Store) : List (Path × Entry) :=
  after.entries.pairs.filter fun (p, e) => before.find? p ≠ some e

/-- Writes entries to the disk. -/
def commit (entries : List (Path × Entry)) : IO Unit :=
  for (p, e) in entries do
    match e with
    | .directory => IO.FS.createDirAll p.text
    | .file (.text s) => IO.FS.writeFile p.text s
    | .file (.binary bytes) => IO.FS.writeBinFile p.text ⟨bytes.toArray⟩

/-- The store that a command needs. -/
def prepare (args : List String) : IO Store := do
  let directory : Path :=
    ((segments (← IO.currentDir).toString).filter (· ≠ "")).map .text
  let store := Store.place { cwd := directory } directory .directory
  match Command.Action.ofArguments args with
  | .ok (.build request) => do
    let mut store ← observeSource store request
    for (p, _) in changes store (Command.execute args store).store do
      store ← observe store p.text
    return store
  | _ => return store

end EntityForge.Main

open EntityForge in
/-- **Runs the command** on the disk. -/
def main (args : List String) : IO UInt32 := do
  let store ← Main.prepare args
  let done := Command.execute args store
  IO.print done.out
  IO.eprint done.err
  Main.commit (Main.changes store done.store)
  return done.exitCode.toUInt32
