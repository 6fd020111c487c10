import EntityForge.Proofs.Build.Steps

/-! # Systems, turn by turn

Systems are built one after the other. In its turn a system is given its base class; then it claims
its file and becomes an artifact, or it is rejected because it requires nothing. What a turn leaves
behind is noted in a `SystemTurn`, and what a build of systems comes to can be read off its turns.

* `System.base`, `System.ignored`: the base class of a system and the warning about its parent.
* `Turns`: the turns that a build of systems can take. Only those of accepted systems claim files.
* `exists_turns`, `Turns.buildSystems_eq`: a build that succeeds takes such turns, and what it
  builds and reports is what they add up to.
* `compile_of_turns`: so is what a compilation builds and reports after its other phases. -/

namespace EntityForge

/-! ### Base classes -/

/-- **The base class of a system,** where it has one. -/
def System.base (variant : Variant) (s : System) : Option BaseClass :=
  match variant with
  | .spatial => some .system
  | .flat => s.parent.bind fun parent => BaseClass.ofParent? parent.val

/-- The warning about the parent of a system, where parents are ignored. -/
def System.ignored (variant : Variant) (s : System) : List Warning :=
  match variant with
  | .spatial => s.parent.toList.map fun _ => .ignoredParent s.name.val
  | .flat => []

/-- The events of warnings. -/
def warningEvents (ws : List Warning) : List Event :=
  ws.map fun w => .warning w.message

theorem warningEvents_append (ws vs : List Warning) :
    warningEvents (ws ++ vs) = warningEvents ws ++ warningEvents vs :=
  List.map_append

/-- **A base class that is found:** the only report is about a parent that is ignored. -/
theorem baseOf_of_ok {config : Config} {s : System} {base : Option BaseClass}
    (h : (baseOf config s).outcome = .ok base) :
    baseOf config s = ⟨warningEvents (s.ignored config.variant), s.ignored config.variant,
      .ok (s.base config.variant)⟩ := by
  unfold baseOf at h ⊢
  rcases hvariant : config.variant <;> rcases hparent : s.parent with _ | parent <;>
    simp only [hvariant, hparent] at h ⊢
  · simp [System.base, System.ignored, hparent, warningEvents]
  · rcases hbase : BaseClass.ofParent? parent.val with _ | found
    · rw [hbase] at h
      cases h
    · simp [System.base, System.ignored, hparent, hbase, warningEvents]
  · simp [System.base, System.ignored, hparent, warningEvents]
  · obtain ⟨_, hwarn, -⟩ := Run.outcome_bind_eq_ok_iff.1 h
    rw [warn_of_ok hwarn, Run.bind_ok]
    simp [System.base, System.ignored, hparent, warningEvents]

/-- **A file that is claimed:** the only report is about an earlier claim. -/
theorem claim_of_ok {config : Config} {label name file : String}
    {claims next : Table String String}
    (h : (claim config label name file claims).outcome = .ok next) :
    ∃ ws, claim config label name file claims = ⟨warningEvents ws, ws, .ok next⟩ ∧
      ∀ w ∈ ws, ∃ first, w = .sharedFile label name first file := by
  unfold claim at h ⊢
  split at h
  · next first _ =>
    obtain ⟨_, hwarn, hnext⟩ := Run.outcome_bind_eq_ok_iff.1 h
    cases hnext
    rw [warn_of_ok hwarn, Run.bind_ok]
    exact ⟨[_], rfl, List.forall_mem_singleton.2 ⟨first, rfl⟩⟩
  · cases h
    exact ⟨[], rfl, nofun⟩

/-! ### Turns -/

/-- **The turn of a system:** the components it requires, and the warnings that were given. -/
structure SystemTurn where
  system : System
  required : List String
  warnings : List Warning

namespace SystemTurn

/-- Whether the system is accepted. -/
def isAccepted (t : SystemTurn) : Bool :=
  t.required ≠ []

/-- The event of a rejection, if the system is rejected. -/
def rejections (t : SystemTurn) : List Event :=
  if t.isAccepted then [] else [.rejected (.emptyRequirement t.system.name.val)]

/-- What is reported in a turn. -/
def events (t : SystemTurn) : List Event :=
  warningEvents t.warnings ++ t.rejections

/-- The artifact of an accepted system. -/
def artifact (config : Config) (t : SystemTurn) : Artifact :=
  systemArtifact config t.system (t.system.base config.variant) t.required

end SystemTurn

/-- The systems that are accepted, with their turns. -/
def acceptedTurns (turns : List SystemTurn) : List SystemTurn :=
  turns.filter SystemTurn.isAccepted

/-- The systems that are rejected, with their turns. -/
def rejectedTurns (turns : List SystemTurn) : List SystemTurn :=
  turns.filter fun t => !t.isAccepted

theorem acceptedTurns_cons_of_ne {t : SystemTurn} (h : t.required ≠ [])
    (turns : List SystemTurn) : acceptedTurns (t :: turns) = t :: acceptedTurns turns :=
  List.filter_cons_of_pos (by simpa [SystemTurn.isAccepted])

theorem acceptedTurns_cons_of_eq {t : SystemTurn} (h : t.required = [])
    (turns : List SystemTurn) : acceptedTurns (t :: turns) = acceptedTurns turns :=
  List.filter_cons_of_neg (by simpa [SystemTurn.isAccepted])

section Turns
variable {config : Config} {known : Table String Resolved}

/-- **The turns of a build,** given the files claimed so far. A system that is rejected leaves the
claims as they are. -/
inductive Turns (config : Config) (known : Table String Resolved) :
    Table String String → List SystemTurn → Prop
  | nil (claims : Table String String) : Turns config known claims []
  | rejected {claims : Table String String} {s : System} {base : Option BaseClass}
      {turns : List SystemTurn} (hbase : (baseOf config s).outcome = .ok base)
      (hrequired : requirementOf known s.requirement = [])
      (hrest : Turns config known claims turns) :
      Turns config known claims (⟨s, [], s.ignored config.variant⟩ :: turns)
  | accepted {claims next : Table String String} {s : System} {base : Option BaseClass}
      {turns : List SystemTurn} (hbase : (baseOf config s).outcome = .ok base)
      (hrequired : requirementOf known s.requirement ≠ [])
      (hclaim : (claim config "System" s.name.val (scriptFile s.name.val) claims).outcome
        = .ok next) (hrest : Turns config known next turns) :
      Turns config known claims (⟨s, requirementOf known s.requirement, s.ignored config.variant
        ++ (claim config "System" s.name.val (scriptFile s.name.val) claims).warnings⟩ :: turns)

theorem Turns.required_eq {claims : Table String String} {turns : List SystemTurn}
    (h : Turns config known claims turns) :
    ∀ t ∈ turns, t.required = requirementOf known t.system.requirement := by
  induction h with
  | nil => exact nofun
  | rejected _ hrequired _ ih => exact List.forall_mem_cons.2 ⟨hrequired.symm, ih⟩
  | accepted _ _ _ _ ih => exact List.forall_mem_cons.2 ⟨rfl, ih⟩

/-- **A build of systems that succeeds** takes turns. -/
theorem exists_turns {ss : List System} : ∀ {claims : Table String String}
    {result : List Artifact × List String},
    (buildSystems config known claims ss).outcome = .ok result →
      ∃ turns, Turns config known claims turns ∧ turns.map SystemTurn.system = ss := by
  induction ss with
  | nil => exact fun {claims _} _ => ⟨[], .nil claims, rfl⟩
  | cons s ss ih =>
    intro claims result h
    rw [buildSystems] at h
    obtain ⟨base, hbase, h⟩ := Run.outcome_bind_eq_ok_iff.1 h
    by_cases hrequired : requirementOf known s.requirement = []
    · simp only [if_pos hrequired, Run.outcome_bind_eq_ok_iff] at h
      obtain ⟨_, -, _, hrest, -⟩ := h
      obtain ⟨turns, hturns, rfl⟩ := ih hrest
      exact ⟨_, .rejected hbase hrequired hturns, rfl⟩
    · simp only [if_neg hrequired, Run.outcome_bind_eq_ok_iff] at h
      obtain ⟨next, hclaim, _, hrest, -⟩ := h
      obtain ⟨turns, hturns, rfl⟩ := ih hrest
      exact ⟨_, .accepted hbase hrequired hclaim hturns, rfl⟩

/-- **What a build of systems comes to** is what its turns add up to. -/
theorem Turns.buildSystems_eq {claims : Table String String} {turns : List SystemTurn}
    (h : Turns config known claims turns) :
    buildSystems config known claims (turns.map SystemTurn.system)
      = ⟨turns.flatMap SystemTurn.events, turns.flatMap SystemTurn.warnings,
          .ok ((acceptedTurns turns).map (SystemTurn.artifact config),
            (rejectedTurns turns).map fun t => t.system.name.val)⟩ := by
  induction h with
  | nil => rfl
  | rejected hbase hrequired _ ih =>
    rw [List.map_cons, buildSystems, baseOf_of_ok hbase, Run.bind_ok]
    simp only [if_pos hrequired, Run.emit, Run.bind_ok, ih, Run.pure_eq]
    simp [acceptedTurns, rejectedTurns, SystemTurn.isAccepted, SystemTurn.events,
      SystemTurn.rejections]
  | accepted hbase hrequired hclaim _ ih =>
    obtain ⟨ws, hrun, -⟩ := claim_of_ok hclaim
    rw [List.map_cons, buildSystems, baseOf_of_ok hbase, Run.bind_ok]
    simp only [if_neg hrequired, hrun, Run.bind_ok, ih, Run.pure_eq]
    simp [acceptedTurns, rejectedTurns, SystemTurn.isAccepted, SystemTurn.events,
      SystemTurn.rejections, SystemTurn.artifact, hrequired, warningEvents_append]

/-- **What a build of systems gives and reports,** turn by turn. -/
theorem turns_of_buildSystems {claims : Table String String} {ss : List System}
    {accepted : List Artifact} {rejected : List String}
    (h : (buildSystems config known claims ss).outcome = .ok (accepted, rejected)) :
    ∃ turns, Turns config known claims turns ∧ turns.map SystemTurn.system = ss ∧
      accepted = (acceptedTurns turns).map (SystemTurn.artifact config) ∧
      rejected = (rejectedTurns turns).map (fun t => t.system.name.val) ∧
      (buildSystems config known claims ss).events = turns.flatMap SystemTurn.events ∧
      (buildSystems config known claims ss).warnings = turns.flatMap SystemTurn.warnings := by
  obtain ⟨turns, hturns, rfl⟩ := exists_turns h
  rw [hturns.buildSystems_eq] at h ⊢
  cases h
  exact ⟨turns, hturns, rfl, rfl, rfl, rfl, rfl⟩

/-- **A compilation from its turns:** what it reports and what it gives. -/
theorem compile_of_turns {p : Program} {components : List Artifact} {catalog : Catalog}
    {turns : List SystemTurn}
    (hcomponents : (buildComponents config .empty p.components).outcome = .ok components)
    (htemplates : (buildTemplates config .empty p.templates).outcome = .ok catalog)
    (hturns : Turns config catalog.known .empty turns)
    (hall : turns.map SystemTurn.system = p.systems) :
    (compile config p).events = (buildComponents config .empty p.components).events
      ++ (buildTemplates config .empty p.templates).events ++ turns.flatMap SystemTurn.events ∧
    (compile config p).outcome = .ok
      { projectName := p.name.val
        components := components
        systems := (acceptedTurns turns).map (SystemTurn.artifact config)
        factory := factoryArtifact config catalog
        warnings := (buildComponents config .empty p.components).warnings
          ++ (buildTemplates config .empty p.templates).warnings
          ++ turns.flatMap SystemTurn.warnings
        rejected := (rejectedTurns turns).map fun t => t.system.name.val } := by
  have hrun := hturns.buildSystems_eq
  rw [hall] at hrun
  have hsystems : (buildSystems config catalog.known .empty p.systems).outcome = .ok
      ((acceptedTurns turns).map (SystemTurn.artifact config),
        (rejectedTurns turns).map fun t => t.system.name.val) := by rw [hrun]
  obtain ⟨hevents, hwarnings⟩ := reports_compile hcomponents htemplates hsystems
  rw [hrun] at hevents hwarnings
  exact ⟨hevents, outcome_compile_eq_ok_iff.2
    ⟨catalog, hcomponents, htemplates, hsystems, rfl, rfl, hwarnings.symm⟩⟩

end Turns

end EntityForge
