import EntityForge.Settings

/-! # Command-line arguments

Options are read from left to right. A value follows its option as the next argument, after an
equals sign, or, for a short option, right behind its letter; short flags can be combined. The first
mistake ends the reading, and so does the request for the version.

* `Switch`: the options there are.
* `Reading`: what has been read so far.
* `Action.ofArguments`: what a list of arguments asks for. -/

namespace EntityForge.Command

/-- **The options.** -/
inductive Switch where
  | source
  | output
  | target
  | spatial
  | lenient
  | overwrite
  | reporter
  | verbose
  | version
  deriving DecidableEq, Repr

/-- Whether an option takes a value. -/
def Switch.takesValue : Switch → Bool
  | source | output | target | reporter => true
  | _ => false

/-- The long name of an option. -/
def Switch.name : Switch → String
  | source => "src"
  | output => "output"
  | target => "target"
  | spatial => "3d"
  | lenient => "fail-on-warning"
  | overwrite => "overwrite"
  | reporter => "reporter"
  | verbose => "verbose"
  | version => "version"

/-- All options. -/
def Switch.all : List Switch :=
  [source, output, target, spatial, lenient, overwrite, reporter, verbose, version]

/-- The option of a long name. Names cannot be shortened. -/
def Switch.ofName? (name : String) : Option Switch :=
  Switch.all.find? (·.name = name)

/-- The option of a letter. -/
def Switch.ofLetter? (c : Char) : Option Switch :=
  match c with
  | 's' => some source
  | 'o' => some output
  | 'v' => some verbose
  | 'V' => some version
  | _ => none

/-- **What is wrong with arguments.** -/
inductive Misuse where
  | unknownOption (text : String)
  | unexpectedArgument (text : String)
  | repeated (o : Switch)
  | missingValue (o : Switch)
  | invalidValue (o : Switch) (text : String)
  | unexpectedValue (o : Switch)
  | conflict
  | missing (o : Switch)
  deriving DecidableEq, Repr

/-- The wording of a mistake. -/
def Misuse.message : Misuse → String
  | unknownOption text => "unknown option '" ++ text ++ "'"
  | unexpectedArgument text => "unexpected argument '" ++ text ++ "'"
  | repeated o => "option '--" ++ o.name ++ "' cannot be used more than once"
  | missingValue o => "option '--" ++ o.name ++ "' needs a value"
  | invalidValue o text => "invalid value '" ++ text ++ "' for option '--" ++ o.name ++ "'"
  | unexpectedValue o => "option '--" ++ o.name ++ "' takes no value"
  | conflict => "options '--3d' and '--target' exclude each other"
  | missing o => "option '--" ++ o.name ++ "' is required"

/-- **What has been read so far:** the options seen, and their values. -/
structure Reading where
  seen : List Switch := []
  source : String := ""
  output : String := ""
  variant : Variant := .flat
  format : ReportFormat := .transcript
  deriving DecidableEq, Repr

/-- How a reading ends before its end: with a mistake, or with the request for the version. -/
inductive Stop where
  | misuse (m : Misuse)
  | version
  deriving DecidableEq, Repr

/-- Notes an option, which may be given only once. -/
def Reading.note (r : Reading) (o : Switch) : Except Stop Reading :=
  if o ∈ r.seen then .error (.misuse (.repeated o)) else .ok { r with seen := o :: r.seen }

/-- Takes a flag. -/
def Reading.takeFlag (r : Reading) (o : Switch) : Except Stop Reading :=
  if o = .version then .error .version else r.note o

/-- Takes the value of an option. -/
def Reading.takeValue (r : Reading) (o : Switch) (value : String) : Except Stop Reading := do
  let invalid := Stop.misuse (.invalidValue o value)
  let r ← r.note o
  match o with
  | .source => if value = "" then .error invalid else pure { r with source := value }
  | .output => if value = "" then .error invalid else pure { r with output := value }
  | .target =>
    match Variant.ofText value with
    | .ok v => pure { r with variant := v }
    | .error _ => .error invalid
  | .reporter =>
    match ReportFormat.ofText value with
    | .ok f => pure { r with format := f }
    | .error _ => .error invalid
  | _ => .error (.misuse (.unexpectedValue o))

/-- Whether an argument is a value and not an option: it does not start with a dash, or it is a lone
one. -/
def isValue (arg : String) : Bool :=
  arg.toList.head? ≠ some '-' || arg = "-"

/-- The reading after the letters behind one dash, and the option that waits for its value in the
next argument. -/
def Reading.takeLetters (r : Reading) : List Char → Except Stop (Reading × Option Switch)
  | [] => .ok (r, none)
  | c :: cs =>
    match Switch.ofLetter? c with
    | none => .error (.misuse (.unknownOption (String.ofList ['-', c])))
    | some o =>
      if o.takesValue then
        match cs with
        | [] => .ok (r, some o)
        | '=' :: value => (r.takeValue o (String.ofList value)).map (·, none)
        | value => (r.takeValue o (String.ofList value)).map (·, none)
      else
        match r.takeFlag o with
        | .ok r => r.takeLetters cs
        | .error e => .error e

/-- The reading after a long option, given without its dashes. -/
def Reading.takeLong (r : Reading) (text : List Char) : Except Stop (Reading × Option Switch) :=
  let name := text.takeWhile (· ≠ '=')
  match Switch.ofName? (String.ofList name), text.dropWhile (· ≠ '=') with
  | none, _ => .error (.misuse (.unknownOption ("--" ++ String.ofList name)))
  | some o, [] =>
    if o.takesValue then .ok (r, some o) else (r.takeFlag o).map (·, none)
  | some o, _ :: value =>
    if o.takesValue then (r.takeValue o (String.ofList value)).map (·, none)
    else .error (.misuse (.unexpectedValue o))

/-- Takes one argument that is not a value. -/
def Reading.takeOption (r : Reading) (arg : String) : Except Stop (Reading × Option Switch) :=
  match arg.toList with
  | '-' :: '-' :: text => r.takeLong text
  | '-' :: letters => r.takeLetters letters
  | _ => .error (.misuse (.unexpectedArgument arg))

/-- **Reads all arguments,** where `pending` waits for its value. Two dashes end the options, and
nothing may follow them. -/
def Reading.readAll (r : Reading) (pending : Option Switch) : List String → Except Stop Reading
  | [] =>
    match pending with
    | none => .ok r
    | some o => .error (.misuse (.missingValue o))
  | arg :: rest =>
    match pending with
    | some o =>
      if isValue arg then
        match r.takeValue o arg with
        | .ok r => r.readAll none rest
        | .error e => .error e
      else .error (.misuse (.missingValue o))
    | none =>
      if arg = "--" then
        match rest with
        | [] => .ok r
        | next :: _ => .error (.misuse (.unexpectedArgument next))
      else if isValue arg then .error (.misuse (.unexpectedArgument arg))
      else
        match r.takeOption arg with
        | .ok (r, pending) => r.readAll pending rest
        | .error e => .error e

/-- **A request for a build.** -/
structure Request where
  source : String
  output : String
  config : Config
  format : ReportFormat
  deriving DecidableEq, Repr

/-- The request of a complete reading. Source and output are required, and the short form of the
target excludes the long one. -/
def Reading.request (r : Reading) : Except Misuse Request :=
  if .source ∉ r.seen then .error (.missing .source)
  else if .output ∉ r.seen then .error (.missing .output)
  else if .spatial ∈ r.seen ∧ .target ∈ r.seen then .error .conflict
  else
    .ok
      { source := r.source
        output := r.output
        config :=
          { variant := if .spatial ∈ r.seen then .spatial else r.variant
            lenient := .lenient ∈ r.seen
            overwrite := .overwrite ∈ r.seen }
        format := r.format }

/-- What a list of arguments asks for. -/
inductive Action where
  | version
  | build (request : Request)
  deriving DecidableEq, Repr

/-- **What a list of arguments asks for,** or what is wrong with it. -/
def Action.ofArguments (args : List String) : Except Misuse Action :=
  match Reading.readAll {} none args with
  | .ok r => r.request.map .build
  | .error .version => .ok .version
  | .error (.misuse m) => .error m

end EntityForge.Command
