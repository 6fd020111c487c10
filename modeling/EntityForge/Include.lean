import EntityForge.Text.Blank
import EntityForge.Text.Lines
import EntityForge.Store.Basic

/-! # Includes

A line `#include "path"` stands for the contents of another file. Directives are replaced pass by
pass until a pass changes nothing; a directive of an included file is first given a path from
the root, so that later passes find it. A file may be expanded once in a run.

* `Directive.parse?`: the directive on a line.
* `rebaseDirectives`: the directives of a text as seen from another directory.
* `expandFile`: the text that one directive stands for.
* `expandLines`: one pass over the lines of a text.
* `expandIncludes`: all passes. -/

namespace EntityForge

/-! ### Directives -/

/-- **A directive on a line:** the blanks before it and the path it names, or one that cannot be
read. -/
inductive Directive where
  | malformed
  | wellFormed (indent : List Char) (path : String)
  deriving DecidableEq, Repr

/-- The word that starts a directive. -/
def directiveWord : List Char :=
  "#include".toList

/-- What may follow the closing quote: blanks, and a comment. -/
def isDirectiveTail (cs : List Char) : Bool :=
  let rest := Text.trimStart cs
  rest = [] || "//".toList.isPrefixOf rest

/-- The directive whose word has been read: a space or tab, then a path in quotes of either kind. -/
def Directive.afterWord (indent : List Char) (rest : List Char) : Directive :=
  if rest.head? = some ' ' ∨ rest.head? = some '\t' then
    match Text.trimStart rest with
    | [] => .malformed
    | q :: more =>
      if q = '"' ∨ q = '\'' then
        let path := more.takeWhile (· ≠ q)
        match more.dropWhile (· ≠ q) with
        | [] => .malformed
        | _ :: tail =>
          if path ≠ [] ∧ isDirectiveTail tail then .wellFormed indent (String.ofList path)
          else .malformed
      else .malformed
  else .malformed

/-- **The directive on a line,** given without its line feed. Ordinary lines have none. -/
def Directive.parse? (line : List Char) : Option Directive :=
  let rest := Text.trimStart line
  if directiveWord.isPrefixOf rest then
    some (.afterWord (line.takeWhile Text.isBlank) (rest.drop directiveWord.length))
  else none

/-- One line as seen from another directory: the path of a directive is joined to `dir`, and what
followed it is left out. -/
def rebaseLine (dir : String) (line : List Char) : List Char :=
  match Directive.parse? (Text.lineBody line) with
  | some (.wellFormed indent path) =>
    indent ++ directiveWord ++ " \"".toList ++ (joinPath dir path).toList ++ ['"']
      ++ Text.lineEnd line
  | _ => line

/-- **A text as seen from another directory.** -/
def rebaseDirectives (dir : String) (text : List Char) : List Char :=
  (Text.splitLines text).flatMap (rebaseLine dir)

/-! ### Expansion -/

/-- What is wrong with an include. -/
inductive IncludeFault where
  | malformed
  | unreadable (path : String) (cause : OsError)
  | repeated (file : Path)
  | unresolved
  deriving DecidableEq, Repr

/-- The largest number of passes. -/
def passLimit : Nat :=
  64

/-- The wording of a fault. -/
def IncludeFault.message : IncludeFault → String
  | malformed => "malformed #include directive, expected #include \"path\""
  | unreadable path cause => "cannot read include '" ++ path ++ "': " ++ cause.message
  | repeated file => "include cycle: '" ++ file.text ++ "' is already included"
  | unresolved => "includes still unresolved after " ++ toString passLimit ++ " passes"

/-- A text without the line feed at its end. -/
def dropFinalNewline (cs : List Char) : List Char :=
  if cs.getLast? = some '\n' then cs.dropLast else cs

/-- **The text that a path stands for,** and the files expanded so far. Paths are taken from
`folder`. -/
def expandFile (store : Store) (folder : String) (expanded : List Path) (path : String) :
    Except IncludeFault (List Char × List Path) :=
  match store.resolve (joinPath folder path) with
  | .error e => .error (.unreadable path e)
  | .ok file =>
    if expanded.contains file then .error (.repeated file)
    else
      match store.readAt file with
      | .error e => .error (.unreadable path e)
      | .ok contents =>
        .ok (rebaseDirectives (Path.text file.dropLast) contents.toList, file :: expanded)

/-- **One pass over lines,** the first of which starts at `offset`. -/
def expandLines (store : Store) (folder : String) (offset : Nat) (expanded : List Path) :
    List (List Char) → Except (Located IncludeFault) (List Char × List Path)
  | [] => .ok ([], expanded)
  | line :: rest =>
    let body := Text.lineBody line
    let next := offset + byteLength line
    match Directive.parse? body with
    | none =>
      match expandLines store folder next expanded rest with
      | .ok (out, files) => .ok (line ++ out, files)
      | .error f => .error f
    | some .malformed => .error ⟨.malformed, ⟨offset, offset + byteLength body⟩⟩
    | some (.wellFormed indent path) =>
      match expandFile store folder expanded path with
      | .error f => .error ⟨f, ⟨offset + byteLength indent, offset + byteLength body⟩⟩
      | .ok (contents, files) =>
        match expandLines store folder next files rest with
        | .ok (out, files) => .ok (dropFinalNewline contents ++ Text.lineEnd line ++ out, files)
        | .error f => .error f

/-- One pass over a text. -/
def expandOnce (store : Store) (folder : String) (expanded : List Path) (text : List Char) :
    Except (Located IncludeFault) (List Char × List Path) :=
  expandLines store folder 0 expanded (Text.splitLines text)

/-- At most so many passes over a text. -/
def expandPasses (store : Store) (folder : String) :
    Nat → List Path → List Char → Except SourceError (List Char)
  | 0, _, text => .error (.at (String.ofList text) ⟨0, 0⟩ IncludeFault.unresolved.message)
  | n + 1, expanded, text =>
    match expandOnce store folder expanded text with
    | .error f => .error (.at (String.ofList text) f.span f.val.message)
    | .ok (next, files) => if next = text then .ok text else expandPasses store folder n files next

/-- **Where a text comes from:** the directory that its includes are taken from, and its own file if
it has one. -/
structure Origin where
  folder : String
  file : Option String := none
  deriving DecidableEq, Repr

/-- The origin of the text of a file. -/
def Origin.ofFile (path : String) : Origin :=
  ⟨(parentPath? path).getD ".", some path⟩

/-- The files that count as expanded before the first pass. -/
def Origin.expanded (origin : Origin) (store : Store) : List Path :=
  match origin.file with
  | none => []
  | some path => (store.resolve path).toOption.toList

/-- **Expands all includes of a text.** -/
def expandIncludes (store : Store) (origin : Origin) (source : String) :
    Except SourceError String :=
  (expandPasses store origin.folder passLimit (origin.expanded store) source.toList).map
    String.ofList

/-- **Reads a source file** and expands its includes. -/
def readSource (store : Store) (path : String) : Except BuildError String :=
  match store.readText path with
  | .error e => .error (.inaccessible path e)
  | .ok source =>
    match expandIncludes store (.ofFile path) source with
    | .error e => .error (.malformed e)
    | .ok text => .ok text

end EntityForge
