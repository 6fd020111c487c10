import EntityForge.Fault
import EntityForge.Table
import EntityForge.Store.Path

/-! # Stores

A store is a tree of directories and files with a current directory. A path text is walked segment
by segment, and everything on the way has to exist.

* `Store`: the entries by their paths.
* `Store.resolve`: the place that a path text leads to.
* `Store.readText`: the text of a file.
* `Store.makeDirectory`, `Store.makeDirectories`: a directory, and one with all those above it.
* `Store.openFile`: where the contents of a file are to be put. -/

namespace EntityForge

/-- A directory or a file. -/
inductive Entry where
  | directory
  | file (contents : Octets)
  deriving DecidableEq, Repr

/-- **A tree of directories and files.** The root is always there. -/
structure Store where
  cwd : Path := []
  entries : Table Path Entry := .empty
  deriving DecidableEq, Repr

namespace Store

/-! ### Looking up -/

/-- What is found at a path. -/
def find? (store : Store) (p : Path) : Option Entry :=
  if p = [] then some .directory else store.entries.find? p

/-- Whether a path is a directory. -/
def isDirectory (store : Store) (p : Path) : Bool :=
  store.find? p = some .directory

/-- **Walks along segments.** Every segment needs a directory to be looked up in. -/
def walk (store : Store) (place : Path) : List String → Except OsError Path
  | [] => .ok place
  | s :: rest =>
    match store.find? place with
    | none => .error .notFound
    | some (.file _) => .error .notDirectory
    | some .directory =>
      if s = "" ∨ s = "." then store.walk place rest
      else if s = ".." then store.walk place.dropLast rest
      else if (store.find? (place ++ [.text s])).isSome then store.walk (place ++ [.text s]) rest
      else .error .notFound

/-- Where the walk along a path text starts. -/
def origin (store : Store) (path : String) : Path :=
  if isAbsolute path then [] else store.cwd

/-- **The place that a path text leads to.** -/
def resolve (store : Store) (path : String) : Except OsError Path :=
  if path.toList.contains (Char.ofNat 0) then .error .invalidName
  else if path = "" then .error .notFound
  else store.walk (store.origin path) (segments path)

/-- The text of the file at a place. -/
def readAt (store : Store) (p : Path) : Except OsError String :=
  match store.find? p with
  | some (.file (.text s)) => .ok s
  | some (.file (.binary _)) => .error .invalidText
  | some .directory => .error .isDirectory
  | none => .error .notFound

/-- **The text of a file.** -/
def readText (store : Store) (path : String) : Except OsError String :=
  match store.resolve path with
  | .ok p => store.readAt p
  | .error e => .error e

/-! ### Changes -/

/-- Sets what is at a path. The root cannot be set. -/
def put (store : Store) (p : Path) (e : Entry) : Store :=
  if p = [] then store else { store with entries := store.entries.insert p e }

/-- What has just been put is found. -/
theorem find?_put_self (store : Store) {p : Path} (h : p ≠ []) (e : Entry) :
    (store.put p e).find? p = some e := by
  simp [put, find?, h]

/-- Putting an entry changes no other path. -/
theorem find?_put_of_ne (store : Store) {p q : Path} (h : q ≠ p) (e : Entry) :
    (store.put p e).find? q = store.find? q := by
  unfold put
  split
  · rfl
  · simp [find?, Table.find?_insert_of_ne _ h]

/-- The place where a path of segments is to be created: an existing directory and a new name. The
last segment has to be a name of its own. -/
def target (store : Store) (start : Path) (parts : List String) : Except OsError (Option Path) :=
  match parts.getLast? with
  | none => .ok none
  | some name =>
    match store.walk start parts.dropLast with
    | .error e => .error e
    | .ok place =>
      if !store.isDirectory place then .error .notDirectory
      else if name = "." ∨ name = ".." then .ok none
      else .ok (some (place ++ [.text name]))

/-- Makes a directory; what leads to it has to exist, and the directory itself must not. -/
def makeDirectory (store : Store) (start : Path) (parts : List String) : Except OsError Store :=
  match store.target start parts with
  | .error e => .error e
  | .ok none => .error .alreadyExists
  | .ok (some p) =>
    if (store.find? p).isSome then .error .alreadyExists else .ok (store.put p .directory)

/-- Whether segments lead to a directory. -/
def leadsToDirectory (store : Store) (start : Path) (parts : List String) : Bool :=
  match store.walk start parts with
  | .ok p => store.isDirectory p
  | .error _ => false

/-- Makes a directory unless it is there. -/
def ensureDirectory (store : Store) (start : Path) (parts : List String) :
    Store × Except OsError Unit :=
  match store.makeDirectory start parts with
  | .ok made => (made, .ok ())
  | .error e => (store, if store.leadsToDirectory start parts then .ok () else .error e)

/-- Makes a directory and all directories above it, given its segments from last to first. The
directories above are tried only if the way to it is missing. -/
def ensureReversed (store : Store) (start : Path) : List String → Store × Except OsError Unit
  | [] => (store, .ok ())
  | name :: above =>
    let parts := (name :: above).reverse
    match store.makeDirectory start parts with
    | .error .notFound =>
      match store.ensureReversed start above with
      | (store, .ok ()) => store.ensureDirectory start parts
      | (store, .error e) => (store, .error e)
    | _ => store.ensureDirectory start parts

/-- **A fault of the disk while a directory is made** with all directories above it: after so many
segments of its path the next directory cannot be made. -/
structure DirectoryFault where
  cause : OsError
  reached : Nat
  deriving DecidableEq, Repr

/-- **Makes a directory and all directories above it** that are missing. What was made before a
failure stays. -/
def makeDirectories (store : Store) (path : String) (fault : Option DirectoryFault := none) :
    Store × Except OsError Unit :=
  if path.toList.contains (Char.ofNat 0) then (store, .error .invalidName)
  else
    match fault with
    | none => store.ensureReversed (store.origin path) (namedSegments path).reverse
    | some fault =>
      match store.ensureReversed (store.origin path)
          ((namedSegments path).take fault.reached).reverse with
      | (store, .ok ()) => (store, .error fault.cause)
      | (store, .error e) => (store, .error e)

/-- The place that a file path leads to, whether the file exists or not. -/
def filePlace (store : Store) (path : String) : Except OsError Path :=
  if path.toList.contains (Char.ofNat 0) then .error .invalidName
  else if path = "" then .error .notFound
  else
    match store.target (store.origin path) (segments path) with
    | .error e => .error e
    | .ok (some p) => .ok p
    | .ok none => .error .isDirectory

/-- **Opens a file for writing:** the place where its contents go. One that is there is replaced, or
else nothing may be there yet. -/
def openFile (store : Store) (path : String) (overwrite : Bool) : Except OsError Path :=
  match store.filePlace path with
  | .error e => .error e
  | .ok p =>
    if overwrite then
      if store.isDirectory p then .error .isDirectory else .ok p
    else if (store.find? p).isSome then .error .alreadyExists
    else .ok p

/-! ### Setting up -/

/-- The directories above a path, outermost first. -/
def above (p : Path) : List Path :=
  (List.range p.length).map p.take

/-- Puts an entry at a path, with the directories above it. -/
def place (store : Store) (p : Path) (e : Entry) : Store :=
  let store := (above p).foldl
    (fun s q => if (s.find? q).isSome then s else s.put q .directory) store
  if e = .directory ∧ store.isDirectory p then store else store.put p e

/-- Removes what is at a path and below it. -/
def remove (store : Store) (p : Path) : Store :=
  { store with entries := ⟨store.entries.pairs.filter fun e => !p.isPrefixOf e.1⟩ }

/-- What lies below a path, by the path from there. -/
def below (store : Store) (p : Path) : List (Path × Entry) :=
  store.entries.pairs.filterMap fun (q, e) =>
    if p.isPrefixOf q && p.length < q.length then some (q.drop p.length, e) else none

end Store

end EntityForge
