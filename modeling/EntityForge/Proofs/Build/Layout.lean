import EntityForge.Proofs.Grammar.Layout
import EntityForge.Proofs.Build.Notices
import Mathlib.Control.Monad.Basic

/-! # Compiling without regard to the layout

No phase of a compilation looks at the places of names: a program that is moved to the start of the
text compiles as before. So two texts with the same tokens, whatever blanks and comments stand
between them and however their quoted texts are spelled, come to the same. Only if they are
malformed is the fault at another place.

* `compile_unplaced`, `compile_congr`: programs that differ in places.
* `compileSource_of_parse`, `compileSource_of_faults`: a text without faults of the scanner.
* `compileSource_ignores_layout`: texts with the same tokens. -/

namespace EntityForge

/-! ### Phases -/

section Phases
variable (config : Config)

theorem buildComponents_unplaced (cs : List Component) : ∀ claims,
    buildComponents config claims (cs.map Component.unplaced)
      = buildComponents config claims cs := by
  induction cs with
  | nil =>
    intro claims
    rfl
  | cons c cs ih =>
    intro claims
    rw [List.map_cons, buildComponents, buildComponents]
    simp only [ih]
    rfl

theorem addInstances_unplaced (base : Resolved) (cs : List Component) :
    addInstances base (cs.map Component.unplaced) = addInstances base cs := by
  unfold addInstances
  rw [List.foldl_map]
  rfl

theorem resolve_unplaced (known : Table String Resolved) (t : Template) :
    resolve known t.unplaced = resolve known t := by
  unfold resolve
  have hinstances : ∀ base, addInstances base t.unplaced.instances
      = addInstances base t.instances := fun base => addInstances_unplaced base t.instances
  simp only [hinstances]
  rcases hparent : t.parent with _ | parent <;> simp only [Template.unplaced, hparent] <;> rfl

theorem buildTemplate_unplaced (catalog : Catalog) (t : Template) :
    buildTemplate config catalog t.unplaced = buildTemplate config catalog t := by
  unfold buildTemplate
  rw [resolve_unplaced]
  rfl

theorem buildTemplates_unplaced (ts : List Template) : ∀ catalog,
    buildTemplates config catalog (ts.map Template.unplaced)
      = buildTemplates config catalog ts := by
  induction ts with
  | nil =>
    intro catalog
    rfl
  | cons t ts ih =>
    intro catalog
    rw [List.map_cons, buildTemplates, buildTemplates, buildTemplate_unplaced]
    simp only [ih]

theorem baseOf_unplaced (s : System) : baseOf config s.unplaced = baseOf config s := by
  unfold baseOf
  rcases config.variant <;> rcases hparent : s.parent with _ | parent <;>
    simp only [System.unplaced, hparent] <;> rfl

theorem requirementOf_unplaced (known : Table String Resolved) (r : Requirement) :
    requirementOf known r.unplaced = requirementOf known r := by
  obtain ⟨kind, names⟩ := r
  cases kind with
  | components =>
    simp only [requirementOf, Requirement.unplaced, List.map_map]
    rfl
  | entities =>
    simp only [requirementOf, Requirement.unplaced, List.flatMap_map]
    rfl

theorem buildSystems_unplaced (known : Table String Resolved) (ss : List System) : ∀ claims,
    buildSystems config known claims (ss.map System.unplaced)
      = buildSystems config known claims ss := by
  induction ss with
  | nil =>
    intro claims
    rfl
  | cons s ss ih =>
    intro claims
    have hrequired : requirementOf known s.unplaced.requirement
        = requirementOf known s.requirement := requirementOf_unplaced known s.requirement
    rw [List.map_cons, buildSystems, buildSystems, baseOf_unplaced]
    simp only [ih, hrequired]
    rfl

/-- **A program that is moved** compiles as before. -/
theorem compile_unplaced (p : Program) : compile config p.unplaced = compile config p := by
  have hrun : buildProgram config p.unplaced = buildProgram config p := by
    unfold buildProgram
    simp only [Program.unplaced, buildComponents_unplaced, buildTemplates_unplaced,
      buildSystems_unplaced]
  unfold compile
  rw [hrun]
  rfl

theorem compile_congr {p q : Program} (h : p.unplaced = q.unplaced) :
    compile config p = compile config q := by
  rw [← compile_unplaced config p, h, compile_unplaced]

end Phases

/-! ### Source texts -/

section Source
variable (config : Config) {source : String} (hfaults : (scan source).faults = [])
include hfaults

theorem compileSource_of_parse {p : Program}
    (hparse : parseDescription (scan source).tokens = .ok p) :
    compileSource config source = (compile config p).withFailure ∧
      ∀ e, (compileSource config source).outcome ≠ .error (.malformed e) := by
  have hrun : compileSource config source = (compile config p).withFailure := by
    simp only [compileSource, readProgram, hfaults, hparse]
  have houtcome : ∀ r : Run Output, r.withFailure.outcome = r.outcome := fun r => by
    unfold Run.withFailure
    split <;> rfl
  refine ⟨hrun, fun e => ?_⟩
  rw [hrun, houtcome]
  exact (onlyNotices_compile config p).outcome e

theorem compileSource_of_faults {fs : ParseFaults}
    (hparse : parseDescription (scan source).tokens = .error fs) :
    ∃ e, e.message = fs.first.val.message ∧
      compileSource config source = ⟨[.malformed e], [], .error (.malformed e)⟩ := by
  refine ⟨.at source fs.first.span fs.first.val.message, rfl, ?_⟩
  simp only [compileSource, readProgram, hfaults, hparse]
  rfl

end Source

/-- **The layout of a text does not matter.** Two texts that scan without a fault into the same
tokens, wherever these stand, compile to the same: one compiles if and only if the other does, and
unless they are malformed their outputs, errors, warnings and events are equal. If one is malformed
so is the other, the fault is the only event, and it is said in the same words, though of another
place. -/
theorem compileSource_ignores_layout (config : Config) {source other : String}
    (hsource : (scan source).faults = []) (hother : (scan other).faults = [])
    (htokens : (scan source).tokens.map Located.val = (scan other).tokens.map Located.val) :
    (∀ output, (compileSource config source).outcome = .ok output ↔
      (compileSource config other).outcome = .ok output) ∧
    ((∀ e, (compileSource config source).outcome ≠ .error (.malformed e)) →
      compileSource config source = compileSource config other) ∧
    ∀ e, (compileSource config source).outcome = .error (.malformed e) →
      ∃ e', (compileSource config other).outcome = .error (.malformed e') ∧
        e'.message = e.message ∧ (compileSource config source).events = [.malformed e] ∧
        (compileSource config other).events = [.malformed e'] := by
  rcases parseDescription_congr htokens with ⟨p, q, hp, hq, hmoved⟩ | ⟨fs, gs, hfs, hgs, hmoved⟩
  · obtain ⟨hrun, hread⟩ := compileSource_of_parse config hsource hp
    obtain ⟨hrun', -⟩ := compileSource_of_parse config hother hq
    have hsame : compileSource config source = compileSource config other := by
      rw [hrun, hrun', compile_congr config hmoved]
    exact ⟨fun output => by rw [hsame], fun _ => hsame, fun e he => absurd he (hread e)⟩
  · have hfault : fs.unplaced.first.val = gs.unplaced.first.val := by rw [hmoved]
    change fs.first.val = gs.first.val at hfault
    obtain ⟨d, hd, hrun⟩ := compileSource_of_faults config hsource hfs
    obtain ⟨d', hd', hrun'⟩ := compileSource_of_faults config hother hgs
    rw [hrun, hrun']
    refine ⟨fun output => by simp, fun hnone => absurd rfl (hnone d), ?_⟩
    rintro e ⟨⟩
    exact ⟨d', rfl, by rw [hd', hd, hfault], rfl, rfl⟩

/-- A description on one line. -/
def narrowSource : String :=
  "project\"\\\"P\\\"\"system S\x7bentities:[T]\x7dtemplate T\x7bA\x7bn:1\x7d\x7d"

/-- The same tokens over several lines, with comments and other quotes. -/
def wideSource : String :=
  "// A\nproject '\"P\"'\n\nsystem S \x7b entities: [T] \x7d\r\n"
    ++ "template T \x7b\n\tA \x7b n: 1 \x7d // B\n\x7d"

/-- The description on one line, if it broke off after the name of a component. -/
def narrowMalformed : String :=
  "project P component\x7b"

/-- The same tokens on two lines. -/
def wideMalformed : String :=
  "project P\ncomponent \x7b\n"

theorem compileSource_ignores_layout_narrow :
    ((scan narrowSource).faults = [] ∧ (scan wideSource).faults = [] ∧
      (scan narrowSource).tokens.map Located.val = (scan wideSource).tokens.map Located.val ∧
      (∃ output, (compileSource {} narrowSource).outcome = .ok output) ∧
      compileSource {} narrowSource = compileSource {} wideSource) ∧
    (compileSource {} narrowMalformed).outcome
      = .error (.malformed ⟨⟨1, 20⟩, ⟨19, 20⟩, "found '\x7b' expected identifier"⟩) ∧
    ∃ e, (compileSource {} wideMalformed).outcome = .error (.malformed e) ∧
      e.message = "found '\x7b' expected identifier" := by
  have hnarrow : (scan narrowSource).faults = [] := by decide +kernel
  have hwide : (scan wideSource).faults = [] := by decide +kernel
  have htokens : (scan narrowSource).tokens.map Located.val
      = (scan wideSource).tokens.map Located.val := by decide +kernel
  have hbroken : (scan narrowMalformed).faults = [] := by decide +kernel
  have hbroken' : (scan wideMalformed).faults = [] := by decide +kernel
  have hrest : (scan narrowMalformed).tokens.map Located.val
      = (scan wideMalformed).tokens.map Located.val := by decide +kernel
  have hmalformed : (compileSource {} narrowMalformed).outcome
      = .error (.malformed ⟨⟨1, 20⟩, ⟨19, 20⟩, "found '\x7b' expected identifier"⟩) := by
    decide +kernel
  obtain ⟨output, houtput⟩ : ∃ output, (compileSource {} narrowSource).outcome = .ok output :=
    Run.exists_ok (by decide +kernel)
  have hread : ∀ e, (compileSource {} narrowSource).outcome ≠ .error (.malformed e) := by
    rw [houtput]
    exact nofun
  obtain ⟨-, hsame, -⟩ := compileSource_ignores_layout {} hnarrow hwide htokens
  obtain ⟨-, -, hplace⟩ := compileSource_ignores_layout {} hbroken hbroken' hrest
  obtain ⟨e, he, hmessage, -⟩ := hplace _ hmalformed
  exact ⟨⟨hnarrow, hwide, htokens, ⟨output, houtput⟩, hsame hread⟩, hmalformed, e, he, hmessage⟩

end EntityForge
