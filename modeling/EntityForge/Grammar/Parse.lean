import EntityForge.Token.Scan
import EntityForge.Grammar.DeclarationReader

/-! # Parsing

From tokens to literals and programs. A program has exactly one project declaration; every further
one is reported, and so is its absence.

* `ParseFault`: what is wrong, `ParseFault.message` its wording.
* `ParseFaults`: one or more faults with their places.
* `parseLiteral`: tokens that hold exactly one literal.
* `parseDescription`: tokens that hold a whole description. -/

namespace EntityForge

/-- **What is wrong with a list of tokens.** -/
inductive ParseFault where
  | mismatch (found : Option Token) (expected : List Label)
  | duplicateProject (first : String)
  | missingProject
  deriving DecidableEq, Repr

/-- The wording of a fault. -/
def ParseFault.message : ParseFault → String
  | mismatch (some t) expected => "found '" ++ t.display ++ "' expected " ++ Label.listText expected
  | mismatch none expected => "found end of input expected " ++ Label.listText expected
  | duplicateProject first =>
    "duplicate project declaration (project '" ++ first ++ "' already declared)"
  | missingProject => "missing project declaration"

/-- **One or more faults,** in the order of their places. -/
structure ParseFaults where
  first : Located ParseFault
  more : List (Located ParseFault) := []
  deriving DecidableEq, Repr

/-- All faults. -/
def ParseFaults.toList (fs : ParseFaults) : List (Located ParseFault) :=
  fs.first :: fs.more

/-- Where a list of tokens ends: at the end of the last one, at zero without any. -/
def endOfTokens (ts : List (Located Token)) : Nat :=
  match ts.getLast? with
  | some t => t.span.stop
  | none => 0

/-- A mismatch as a fault: it stands at the token found, or at the end of the input. -/
def Mismatch.fault (m : Mismatch) (stop : Nat) : Located ParseFault :=
  match m.found with
  | some t => ⟨.mismatch (some t.val) m.expected, t.span⟩
  | none => ⟨.mismatch none m.expected, ⟨stop, stop⟩⟩

/-- **Reads exactly one literal.** -/
def parseLiteral (ts : List (Located Token)) : Except ParseFaults Literal :=
  match literalReader.run ts with
  | .ok v => .ok v
  | .error m => .error ⟨m.fault (endOfTokens ts), []⟩

/-! ### Sorting declarations -/

/-- The project declarations with their spans. -/
def projectsOf (ds : List Declaration) : List (Name × Span) :=
  ds.filterMap fun | .project name span => some (name, span) | _ => none

/-- The component declarations. -/
def componentsOf (ds : List Declaration) : List Component :=
  ds.filterMap fun | .component c => some c | _ => none

/-- The template declarations. -/
def templatesOf (ds : List Declaration) : List Template :=
  ds.filterMap fun | .template t => some t | _ => none

/-- The system declarations. -/
def systemsOf (ds : List Declaration) : List System :=
  ds.filterMap fun | .system s => some s | _ => none

/-- **Sorts declarations into a program,** for a source whose tokens end at `stop`. -/
def sortDeclarations (ds : List Declaration) (stop : Nat) : Except ParseFaults Program :=
  match projectsOf ds with
  | [] => .error ⟨⟨.missingProject, ⟨stop, stop⟩⟩, []⟩
  | [(name, _)] => .ok ⟨name, componentsOf ds, templatesOf ds, systemsOf ds⟩
  | (name, _) :: (_, again) :: others =>
    let fault := fun span => ⟨.duplicateProject name.val, span⟩
    .error ⟨fault again, others.map fun p => fault p.2⟩

/-- **Reads a whole description.** -/
def parseDescription (ts : List (Located Token)) : Except ParseFaults Program :=
  match declarationReader.run ts with
  | .ok ds => sortDeclarations ds (endOfTokens ts)
  | .error m => .error ⟨m.fault (endOfTokens ts), []⟩

end EntityForge
