import EntityForge.Proofs.Build.Requirements

/-! # Rejected systems leave no trace

A system that is rejected claims no file and adds nothing that a later system could meet. So a
program compiles to the same artifacts without its rejected systems, and what it reports is what it
reported, less the turns of those systems.

* `SystemTurn.Warned`, `Turns.warned`: the warnings that belong to a turn.
* `Turns.acceptedTurns`: the other systems take the same turns without the rejected ones.
* `compile_isolates_rejected`: a program without its rejected systems. -/

namespace EntityForge

/-! ### Turns without the rejected ones -/

/-- **The warnings of a turn:** first the one about the parent, then the one about the file, which
only an accepted system can have. -/
def SystemTurn.Warned (variant : Variant) (t : SystemTurn) : Prop :=
  ∃ collisions, t.warnings = t.system.ignored variant ++ collisions ∧
    (∀ w ∈ collisions, ∃ first, w =
      .sharedFile "System" t.system.name.val first (scriptFile t.system.name.val)) ∧
    (t.required = [] → collisions = [])

section Turns
variable {config : Config} {known : Table String Resolved} {claims : Table String String}
  {turns : List SystemTurn}

theorem Turns.warned (h : Turns config known claims turns) :
    ∀ t ∈ turns, t.Warned config.variant := by
  induction h with
  | nil => exact nofun
  | rejected _ _ _ ih =>
    exact List.forall_mem_cons.2 ⟨⟨[], (List.append_nil _).symm, nofun, fun _ => rfl⟩, ih⟩
  | accepted _ hrequired hclaim _ ih =>
    obtain ⟨ws, hrun, hshared⟩ := claim_of_ok hclaim
    refine List.forall_mem_cons.2 ⟨⟨ws, ?_, hshared, fun hnone => absurd hnone hrequired⟩, ih⟩
    rw [hrun]

/-- **The turns of accepted systems** can be taken without the others, since these claim no file. -/
theorem Turns.acceptedTurns (h : Turns config known claims turns) :
    Turns config known claims (acceptedTurns turns) := by
  induction h with
  | nil claims => exact .nil claims
  | rejected _ _ _ ih => exact ih
  | accepted hbase hrequired hclaim _ ih =>
    rw [acceptedTurns_cons_of_ne hrequired]
    exact .accepted hbase hrequired hclaim ih

theorem acceptedTurns_idem (turns : List SystemTurn) :
    acceptedTurns (acceptedTurns turns) = acceptedTurns turns := by
  simp [acceptedTurns]

theorem rejectedTurns_acceptedTurns (turns : List SystemTurn) :
    rejectedTurns (acceptedTurns turns) = [] := by
  simp [acceptedTurns, rejectedTurns]

theorem flatMap_acceptedTurns {α : Type} {f : SystemTurn → List α}
    (h : ∀ t ∈ turns, t.required = [] → f t = []) :
    (acceptedTurns turns).flatMap f = turns.flatMap f := by
  induction turns with
  | nil => rfl
  | cons t turns ih =>
    obtain ⟨hfirst, hrest⟩ := List.forall_mem_cons.1 h
    by_cases hrequired : t.required = []
    · rw [acceptedTurns_cons_of_eq hrequired, List.flatMap_cons, hfirst hrequired, ih hrest,
        List.nil_append]
    · rw [acceptedTurns_cons_of_ne hrequired, List.flatMap_cons, List.flatMap_cons, ih hrest]

end Turns

/-! ### Programs without rejected systems -/

/-- **Rejected systems are isolated.** Give each system of a program that compiles its turn, with
the components it requires and its warnings: one about an ignored parent, then one about a shared
file, which a rejected system never has. The program without the rejected systems compiles as well,
with the same name, components, systems and factory, and rejects nothing. Of the warnings and events
those of the rejected systems are gone, and all others stay in order. With the two-dimensional
runtime all warnings stay. -/
theorem compile_isolates_rejected {config : Config} {p : Program} {output : Output}
    (h : (compile config p).outcome = .ok output) :
    ∃ (turns : List SystemTurn) (kept : Program) (ws : List Warning) (es : List Event),
      turns.map SystemTurn.system = p.systems ∧
      (∀ t ∈ turns, Requires p.templates t.system.requirement t.required ∧
        t.Warned config.variant) ∧
      output.rejected = (rejectedTurns turns).map (fun t => t.system.name.val) ∧
      output.warnings = ws ++ turns.flatMap SystemTurn.warnings ∧
      (compile config p).events = es ++ turns.flatMap SystemTurn.events ∧
      kept = { p with systems := (acceptedTurns turns).map SystemTurn.system } ∧
      (compile config kept).outcome = .ok { output with
        warnings := ws ++ (acceptedTurns turns).flatMap SystemTurn.warnings
        rejected := [] } ∧
      (compile config kept).events = es ++ (acceptedTurns turns).flatMap SystemTurn.events ∧
      (compile config kept).events.filterMap Event.rejected? = [] ∧
      (config.variant = .flat →
        (compile config kept).outcome = .ok { output with rejected := [] }) := by
  obtain ⟨catalog, hcomponents, htemplates, hsystems, -⟩ := outcome_compile_eq_ok_iff.1 h
  obtain ⟨turns, hturns, hall⟩ := exists_turns hsystems
  generalize output.components = components at hcomponents
  have hresolves := resolves_of_buildTemplates Catalog.resolves_empty htemplates
  obtain ⟨hevents, houtcome⟩ := compile_of_turns hcomponents htemplates hturns hall
  obtain rfl := Except.ok.inj (h.symm.trans houtcome)
  -- Only the systems differ, so the phases before them are the same.
  let kept : Program := { p with systems := (acceptedTurns turns).map SystemTurn.system }
  obtain ⟨hevents', houtcome'⟩ :=
    compile_of_turns (p := kept) hcomponents htemplates hturns.acceptedTurns rfl
  rw [acceptedTurns_idem, rejectedTurns_acceptedTurns] at houtcome'
  refine ⟨turns, kept, _, _, hall, fun t ht => ⟨?_, hturns.warned t ht⟩, rfl, rfl, hevents, rfl,
    houtcome', hevents', rejections_compile houtcome', fun hflat => ?_⟩
  · rw [hturns.required_eq t ht]
    exact hresolves.requires t.system.requirement
  · rw [houtcome', flatMap_acceptedTurns]
    · rfl
    · intro t ht hnone
      obtain ⟨collisions, heq, -, hempty⟩ := hturns.warned t ht
      rw [heq, hempty hnone, hflat]
      rfl

/-- A system that requires nothing. -/
def idle : System where
  name := ⟨"Hunt", ⟨0, 4⟩⟩
  parent := some ⟨"RenderSystem", ⟨5, 17⟩⟩
  requirement := ⟨.components, []⟩

/-- A system of the same name that is accepted. -/
def chase : System where
  name := ⟨"Hunt", ⟨20, 24⟩⟩
  parent := some ⟨"RenderSystem", ⟨25, 37⟩⟩
  requirement := ⟨.components, [⟨"Body", ⟨40, 44⟩⟩]⟩

/-- A system whose file is the same. -/
def stalk : System where
  name := ⟨"HuntSystem", ⟨50, 60⟩⟩
  parent := none
  requirement := ⟨.components, [⟨"Body", ⟨61, 65⟩⟩]⟩

/-- A program with these systems. -/
def chases : Program :=
  { wolves with systems := [idle, chase, stalk] }

theorem compile_isolates_rejected_chases :
    (∃ output ws more,
      (compile { variant := .spatial, lenient := true } chases).outcome = .ok output ∧
      output.rejected = ["Hunt"] ∧ output.warnings = ws ++ .ignoredParent "Hunt" :: more ∧
      (compile { variant := .spatial, lenient := true }
        { chases with systems := [chase, stalk] }).outcome
          = .ok { output with warnings := ws ++ more, rejected := [] }) ∧
    ∃ output, (compile { lenient := true } chases).outcome = .ok output ∧
      .sharedFile "System" "HuntSystem" "Hunt" "hunt.js" ∈ output.warnings ∧
      output.rejected = ["Hunt"] ∧
      (compile { lenient := true } { chases with systems := [chase, stalk] }).outcome
        = .ok { output with rejected := [] } := by
  have hsplit : ∀ turns : List SystemTurn, turns.map SystemTurn.system = chases.systems →
      (∀ t ∈ turns, Requires chases.templates t.system.requirement t.required) →
      ∃ u v w, turns = [⟨idle, [], u⟩, ⟨chase, ["Body"], v⟩, ⟨stalk, ["Body"], w⟩] := by
    intro turns hall hrequires
    obtain ⟨⟨_, a, u⟩, _, rfl, rfl, hlater⟩ := List.map_eq_cons_iff.1 hall
    obtain ⟨⟨_, b, v⟩, _, rfl, rfl, hlast⟩ := List.map_eq_cons_iff.1 hlater
    obtain ⟨⟨_, c, w⟩, _, rfl, rfl, hend⟩ := List.map_eq_cons_iff.1 hlast
    obtain rfl := List.map_eq_nil_iff.1 hend
    obtain rfl := (hrequires ⟨idle, a, u⟩ (by simp)).unique (.components _)
    obtain rfl := (hrequires ⟨chase, b, v⟩ (by simp)).unique (.components _)
    obtain rfl := (hrequires ⟨stalk, c, w⟩ (by simp)).unique (.components _)
    exact ⟨u, v, w, rfl⟩
  constructor
  · obtain ⟨output, h⟩ : ∃ output,
        (compile { variant := .spatial, lenient := true } chases).outcome = .ok output :=
      Run.exists_ok (by decide +kernel)
    obtain ⟨turns, _, ws, -, hall, hturns, hrejected, hwarnings, -, rfl, hkept, -⟩ :=
      compile_isolates_rejected h
    obtain ⟨u, v, w, rfl⟩ := hsplit turns hall fun t ht => (hturns t ht).1
    obtain ⟨-, collisions, hu, -, hnone⟩ := hturns ⟨idle, [], u⟩ (by simp)
    obtain rfl := hnone rfl
    obtain rfl : u = [.ignoredParent "Hunt"] := hu
    exact ⟨output, ws, _, h, hrejected, hwarnings, hkept⟩
  · obtain ⟨output, h, hshared⟩ : ∃ output,
        (compile { lenient := true } chases).outcome = .ok output ∧
          output.warnings = [.redeclared "Wolf",
            .sharedFile "System" "HuntSystem" "Hunt" "hunt.js"] :=
      Run.exists_ok_of_map_eq (by decide +kernel)
    obtain ⟨turns, _, _, -, hall, hturns, hrejected, -, -, rfl, -, -, -, hkept⟩ :=
      compile_isolates_rejected h
    obtain ⟨u, v, w, rfl⟩ := hsplit turns hall fun t ht => (hturns t ht).1
    exact ⟨output, h, by rw [hshared]; simp, hrejected, hkept rfl⟩

end EntityForge
