import EntityForge.Proofs.Build.Collisions
import EntityForge.Proofs.Build.Notices
import EntityForge.Proofs.Build.Turns
import Mathlib.Data.List.Forall2

/-! # What systems require

A system lists the components it works on, or templates whose components it takes together. What
this comes to can be said of the declarations alone, and it decides whether the system is accepted.

* `Contributes`, `Requires`: the components of a template, by name, and those of a requirement.
* `Requires.unique`, `Catalog.Resolves.requires`: a system requires one list of components, and it
  is the one that a build works out from its table of templates.
* `compile_accepts_by_requirement`: which systems are accepted, and with which files. -/

namespace EntityForge

/-! ### Requirements -/

/-- **What the name of a template contributes:** the components in the lineage of its last
declaration, each once. A name that is not declared contributes nothing. -/
inductive Contributes (ts : List Template) (name : String) : List String → Prop
  | declared {j : ℕ} {lineage : List Template} (hj : LastBefore ts ts.length name j)
      (hlineage : Lineage ts j lineage) :
      Contributes ts name ((flatten lineage).map (·.1)).eraseDups
  | undeclared (hnone : name ∉ ts.map fun t => t.name.val) : Contributes ts name []

/-- **The components of a requirement,** each once in the order of first occurrence: those it lists,
or those that its templates contribute. -/
inductive Requires (ts : List Template) : Requirement → List String → Prop
  | components (names : List Name) :
      Requires ts ⟨.components, names⟩ (names.map (·.val)).eraseDups
  | entities {names : List Name} {parts : List (List String)}
      (hparts : List.Forall₂ (fun n part => Contributes ts n.val part) names parts) :
      Requires ts ⟨.entities, names⟩ parts.flatten.eraseDups

section Requirements
variable {ts : List Template}

theorem Contributes.unique {name : String} {a b : List String} (ha : Contributes ts name a)
    (hb : Contributes ts name b) : a = b := by
  cases ha with
  | declared hj hlineage =>
    cases hb with
    | declared hj' hlineage' =>
      obtain rfl := hj.unique hj'
      rw [hlineage.unique hlineage']
    | undeclared hnone => exact absurd (exists_lastBefore_iff.1 ⟨_, hj⟩) hnone
  | undeclared hnone =>
    cases hb with
    | declared hj => exact absurd (exists_lastBefore_iff.1 ⟨_, hj⟩) hnone
    | undeclared => rfl

theorem Requires.unique {r : Requirement} {a b : List String} (ha : Requires ts r a)
    (hb : Requires ts r b) : a = b := by
  cases ha with
  | components => cases hb with
    | components => rfl
  | entities hparts => cases hb with
    | entities hparts' =>
      have hone : Relator.RightUnique fun (n : Name) part => Contributes ts n.val part :=
        fun _ _ _ h h' => h.unique h'
      rw [List.right_unique_forall₂' hone hparts hparts']

variable {catalog : Catalog} (h : catalog.Resolves ts)
include h

theorem Catalog.Resolves.contributes (name : String) :
    Contributes ts name (match catalog.known.find? name with
      | some resolved => resolved.keys
      | none => []) := by
  rcases hfind : catalog.known.find? name with _ | resolved
  · refine .undeclared fun hmem => ?_
    obtain ⟨j, hj⟩ := exists_lastBefore_iff.2 hmem
    obtain ⟨t, ht, hname⟩ := Option.map_eq_some_iff.1 hj.named
    obtain ⟨-, resolved, -, hentry, -⟩ := h.entries j t ht
    have hknown := (h.known name resolved).2 ⟨j, hj, hname ▸ hentry⟩
    rw [hfind] at hknown
    cases hknown
  · obtain ⟨j, hj, hentry⟩ := (h.known _ _).1 hfind
    obtain ⟨t, ht, -⟩ := Option.map_eq_some_iff.1 hj.named
    obtain ⟨lineage, other, hlineage, hentry', hother⟩ := h.entries j t ht
    rw [hentry, Option.some.injEq, Script.Blueprint.mk.injEq] at hentry'
    obtain ⟨-, rfl⟩ := hentry'
    dsimp only
    rw [hother.keys]
    exact .declared hj hlineage

/-- **A build works out what is required.** -/
theorem Catalog.Resolves.requires (r : Requirement) :
    Requires ts r (requirementOf catalog.known r) := by
  obtain ⟨kind, names⟩ := r
  cases kind with
  | components => exact .components names
  | entities =>
    unfold requirementOf
    dsimp only
    rw [List.flatMap_def]
    refine .entities (List.forall₂_map_right_iff.2 (List.forall₂_same.2 fun n _ => ?_))
    exact h.contributes n.val

end Requirements

/-! ### Systems that are accepted -/

/-- **Systems are accepted by what they require.** If a program compiles, each of its systems
requires one list of components, worked out from the declarations. The systems for which this list
is not empty are accepted in order, each with one artifact, written for the variant with the name,
the base class and the components of the system. The others are rejected in order, each reported
once; they have no artifact and no claim to a file. Every component has one artifact. -/
theorem compile_accepts_by_requirement {config : Config} {p : Program} {output : Output}
    (h : (compile config p).outcome = .ok output) :
    (∃ pairs : List (System × List String), pairs.map (·.1) = p.systems ∧
      (∀ q ∈ pairs, ∀ required, Requires p.templates q.1.requirement required ↔ required = q.2) ∧
      output.systems = (pairs.filter fun q => q.2 ≠ []).map
        (fun q => systemArtifact config q.1 (q.1.base config.variant) q.2) ∧
      output.rejected = (pairs.filter fun q => q.2 = []).map fun q => q.1.name.val) ∧
    (compile config p).events.filterMap Event.rejected? = output.rejected.map .emptyRequirement ∧
    TellsCollisions "System" (output.warnings.map Warning.message) output.systems ∧
    output.systems.length + output.rejected.length = p.systems.length ∧
    output.components = p.components.map (componentArtifact config) := by
  obtain ⟨catalog, hcomponents, htemplates, hsystems, -⟩ := outcome_compile_eq_ok_iff.1 h
  obtain ⟨turns, hturns, hall, haccepted, hrejected, -⟩ := turns_of_buildSystems hsystems
  have hmade := (buildComponents_repeats claims_empty hcomponents).1
  have hresolves := resolves_of_buildTemplates Catalog.resolves_empty htemplates
  refine ⟨⟨turns.map fun t => (t.system, t.required), ?_, ?_, ?_, ?_⟩, rejections_compile h,
    (tellsCollisions_of_compile h).2.1, ?_, hmade⟩
  · rw [List.map_map, ← hall]
    rfl
  · intro q hq required
    obtain ⟨t, ht, rfl⟩ := List.mem_map.1 hq
    have hrequires := hresolves.requires t.system.requirement
    rw [List.nil_append, ← hturns.required_eq t ht] at hrequires
    constructor
    · exact fun hother => hother.unique hrequires
    · rintro rfl
      exact hrequires
  · rw [haccepted, List.filter_map, List.map_map]
    rfl
  · have hempty : rejectedTurns turns = turns.filter fun t => t.required = [] :=
      List.filter_congr fun t _ => by simp [SystemTurn.isAccepted]
    rw [hrejected, hempty, List.filter_map, List.map_map]
    rfl
  · rw [haccepted, hrejected, List.length_map, List.length_map, ← hall, List.length_map]
    exact (List.length_eq_length_filter_add SystemTurn.isAccepted).symm

/-- A template without components. -/
def ghost : Template where
  name := ⟨"Ghost", ⟨70, 75⟩⟩
  parent := none
  instances := []

/-- A system that takes the components of a template, of the later one of two that share a name, and
of one that is not declared. -/
def hunt : System where
  name := ⟨"Hunt", ⟨80, 84⟩⟩
  parent := some ⟨"RenderSystem", ⟨85, 97⟩⟩
  requirement := ⟨.entities, [⟨"Cub", ⟨100, 103⟩⟩, ⟨"Nobody", ⟨104, 110⟩⟩, ⟨"Wolf", ⟨111, 115⟩⟩]⟩

/-- A system whose template has no components. -/
def haunt : System where
  name := ⟨"Haunt", ⟨120, 125⟩⟩
  parent := none
  requirement := ⟨.entities, [⟨"Ghost", ⟨126, 131⟩⟩]⟩

/-- A system that lists a component twice. -/
def wander : System where
  name := ⟨"Hunt", ⟨140, 144⟩⟩
  parent := none
  requirement := ⟨.components, [⟨"Mind", ⟨145, 149⟩⟩, ⟨"Body", ⟨150, 154⟩⟩, ⟨"Mind", ⟨155, 159⟩⟩]⟩

/-- A program with these systems. -/
def pack : Program :=
  { wolves with templates := wolves.templates ++ [ghost], systems := [hunt, haunt, wander] }

theorem compile_accepts_by_requirement_pack :
    Requires pack.templates hunt.requirement ["Body", "Mind", "Coat"] ∧
    Requires pack.templates haunt.requirement [] ∧
    Requires pack.templates wander.requirement ["Mind", "Body"] ∧
    ∃ output, (compile { lenient := true } pack).outcome = .ok output ∧
      output.systems = [
        systemArtifact { lenient := true } hunt (some .renderSystem) ["Body", "Mind", "Coat"],
        systemArtifact { lenient := true } wander none ["Mind", "Body"]] ∧
      output.rejected = ["Haunt"] ∧
      (compile { lenient := true } pack).events.filterMap Event.rejected?
        = [.emptyRequirement "Haunt"] ∧
      TellsCollisions "System" (output.warnings.map Warning.message) output.systems := by
  have hwolf : LastBefore pack.templates 4 "Wolf" 1 := by
    refine ⟨by decide, rfl, fun k h1 h2 => ?_⟩
    obtain rfl | rfl : k = 2 ∨ k = 3 := by omega
    · decide
    · decide
  have hcub : LastBefore pack.templates 4 "Cub" 2 := by
    refine ⟨by decide, rfl, fun k h1 h2 => ?_⟩
    obtain rfl : k = 3 := by omega
    decide
  have hghost : LastBefore pack.templates 4 "Ghost" 3 := ⟨by decide, rfl, by omega⟩
  have hfirst : LastBefore pack.templates 1 "Wolf" 0 := ⟨by decide, rfl, by omega⟩
  have hsecond : LastBefore pack.templates 2 "Wolf" 1 := ⟨by decide, rfl, by omega⟩
  have hgrey : Lineage pack.templates 1 [wolf, greyWolf] :=
    .child rfl rfl hfirst (.root rfl rfl)
  have hyoung : Lineage pack.templates 2 [wolf, greyWolf, cub] :=
    .child rfl rfl hsecond hgrey
  have hcubs : Contributes pack.templates "Cub" ["Body", "Mind", "Coat"] :=
    .declared hcub hyoung
  have hwolves : Contributes pack.templates "Wolf" ["Body", "Mind", "Coat"] :=
    .declared hwolf hgrey
  have hghosts : Contributes pack.templates "Ghost" [] :=
    .declared hghost (.root (t := ghost) rfl rfl)
  have hnobody : Contributes pack.templates "Nobody" [] := .undeclared (by decide)
  have hparts : List.Forall₂ (fun n part => Contributes pack.templates n.val part)
      hunt.requirement.names [["Body", "Mind", "Coat"], [], ["Body", "Mind", "Coat"]] :=
    .cons hcubs (.cons hnobody (.cons hwolves .nil))
  have hhunt : Requires pack.templates hunt.requirement ["Body", "Mind", "Coat"] :=
    .entities hparts
  have hnothing : List.Forall₂ (fun n part => Contributes pack.templates n.val part)
      haunt.requirement.names [[]] := .cons hghosts .nil
  have hhaunt : Requires pack.templates haunt.requirement [] := .entities hnothing
  have hwander : Requires pack.templates wander.requirement ["Mind", "Body"] := .components _
  obtain ⟨output, h⟩ : ∃ output, (compile { lenient := true } pack).outcome = .ok output :=
    Run.exists_ok (by decide +kernel)
  obtain ⟨⟨pairs, hall, hrequires, hsystems, hrejected⟩, hevents, hcollisions, -⟩ :=
    compile_accepts_by_requirement h
  obtain ⟨⟨_, a⟩, _, rfl, rfl, hlater⟩ := List.map_eq_cons_iff.1 hall
  obtain ⟨⟨_, b⟩, _, rfl, rfl, hlast⟩ := List.map_eq_cons_iff.1 hlater
  obtain ⟨⟨_, c⟩, _, rfl, rfl, hend⟩ := List.map_eq_cons_iff.1 hlast
  obtain rfl := List.map_eq_nil_iff.1 hend
  obtain rfl := (hrequires (hunt, a) (by simp) _).1 hhunt
  obtain rfl := (hrequires (haunt, b) (by simp) _).1 hhaunt
  obtain rfl := (hrequires (wander, c) (by simp) _).1 hwander
  rw [hrejected] at hevents
  exact ⟨hhunt, hhaunt, hwander, output, h, hsystems, hrejected, hevents, hcollisions⟩

end EntityForge
