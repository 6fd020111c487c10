import EntityForge.Proofs.Build.FirstWarning
import EntityForge.Proofs.Build.Failures
import EntityForge.Proofs.Build.Isolation

/-! # What the variant changes

A program that compiles for the two-dimensional runtime compiles for the three-dimensional one, and
the two outputs hold the same files. Only the runtime that a file imports from differs, and the base
class of a system, which the three-dimensional runtime does not let it choose: there every parent is
ignored, with a warning.

* `eqRelation`: the steps that do not read the variant.
* `buildComponents_retarget`, `SystemTurn.spatial`, `Turns.spatial`: components and systems for the
  other runtime.
* `DifferInRuntime`, `ComponentTwins`, `SystemTwins`, `FactoryTwins`: what the two outputs share.
* `outcome_compile_ne_unknownBase`: the three-dimensional runtime has no unknown base class.
* `compile_spatial_of_flat`: the two compilations of a program. -/

namespace EntityForge

/-! ### Steps that do not read the variant -/

section Lenient
variable {c d : Config} (hlenient : c.lenient = d.lenient)
include hlenient

theorem eqRelation : StepRelation c d fun _ r s => r = s where
  value _ := rfl
  undeclaredParent _ _ := rfl
  unknownBase _ _ := rfl
  warning w := by unfold warn Config.stopsOnWarning; rw [hlenient]
  bind {α β r s f g} hr hf := by rw [hr, funext hf]

/-- **Components for another runtime** have the same names and files, and the same warnings. -/
theorem buildComponents_retarget {cs : List Component} :
    ∀ {claims : Table String String} {artifacts : List Artifact},
      (buildComponents c claims cs).outcome = .ok artifacts →
      artifacts = cs.map (componentArtifact c) ∧
        (buildComponents d claims cs).outcome = .ok (cs.map (componentArtifact d)) ∧
        (buildComponents d claims cs).warnings = (buildComponents c claims cs).warnings := by
  induction cs with
  | nil =>
    intro claims artifacts h
    cases h
    exact ⟨rfl, rfl, rfl⟩
  | cons component cs ih =>
    intro claims artifacts h
    have hclaims := (eqRelation hlenient).claim "Component" component.name.val
      (scriptFile component.name.val) claims
    rw [buildComponents] at h ⊢
    rw [buildComponents, ← hclaims]
    obtain ⟨next, hnext, h⟩ := Run.outcome_bind_eq_ok_iff.1 h
    obtain ⟨rest, hrest, hlast⟩ := Run.outcome_bind_eq_ok_iff.1 h
    cases hlast
    obtain ⟨rfl, hother, hwarnings⟩ := ih hrest
    refine ⟨rfl, ?_, ?_⟩
    · exact Run.outcome_bind_eq_ok_iff.2
        ⟨next, hnext, Run.outcome_bind_eq_ok_iff.2 ⟨_, hother, rfl⟩⟩
    · rw [Run.warnings_bind_of_ok hnext, Run.warnings_bind_of_ok hnext,
        Run.warnings_bind_of_ok hrest, Run.warnings_bind_of_ok hother, hwarnings]
      simp

end Lenient

/-! ### Systems -/

/-- **A turn for the three-dimensional runtime,** given the turn of the same system for the other
one: first there is the warning about the parent. -/
def SystemTurn.spatial (t : SystemTurn) : SystemTurn :=
  { t with warnings := t.system.ignored .spatial ++ t.warnings }

theorem acceptedTurns_map_spatial (turns : List SystemTurn) :
    acceptedTurns (turns.map SystemTurn.spatial) = (acceptedTurns turns).map SystemTurn.spatial :=
  List.filter_map

theorem rejectedTurns_map_spatial (turns : List SystemTurn) :
    rejectedTurns (turns.map SystemTurn.spatial) = (rejectedTurns turns).map SystemTurn.spatial :=
  List.filter_map

/-- **Systems take the same turns** for the three-dimensional runtime, parents apart. -/
theorem Turns.spatial {c d : Config} (hflat : c.variant = .flat) (hspatial : d.variant = .spatial)
    (hc : c.lenient = true) (hd : d.lenient = true) {known : Table String Resolved}
    {claims : Table String String} {turns : List SystemTurn} (h : Turns c known claims turns) :
    Turns d known claims (turns.map SystemTurn.spatial) := by
  have hbase : ∀ s, ∃ base, (baseOf d s).outcome = .ok base := by
    intro s
    rcases outcome_baseOf_cases hd s [] with ⟨-, h⟩ | ⟨hvariant, -⟩
    · exact h
    · rw [hspatial] at hvariant
      cases hvariant
  have hclaims := (eqRelation (hc.trans hd.symm)).claim
  induction h with
  | nil claims => exact .nil claims
  | @rejected _ s _ turns _ hrequired _ ih =>
    obtain ⟨base, hbase⟩ := hbase s
    have hturn :
        SystemTurn.spatial ⟨s, [], s.ignored c.variant⟩ = ⟨s, [], s.ignored d.variant⟩ := by
      rw [SystemTurn.spatial, hflat, hspatial]
      simp [System.ignored]
    rw [List.map_cons, hturn]
    exact .rejected hbase hrequired ih
  | @accepted claims next s _ turns _ hrequired hclaim _ ih =>
    obtain ⟨base, hbase⟩ := hbase s
    have hsame := hclaims "System" s.name.val (scriptFile s.name.val) claims
    have hturn : SystemTurn.spatial ⟨s, requirementOf known s.requirement, s.ignored c.variant
          ++ (claim c "System" s.name.val (scriptFile s.name.val) claims).warnings⟩
        = ⟨s, requirementOf known s.requirement, s.ignored d.variant
          ++ (claim d "System" s.name.val (scriptFile s.name.val) claims).warnings⟩ := by
      rw [SystemTurn.spatial, hflat, hspatial, hsame]
      simp [System.ignored]
    rw [List.map_cons, hturn]
    rw [hsame] at hclaim
    exact .accepted hbase hrequired hclaim ih

/-! ### Warnings -/

/-- Whether a message says that a parent is ignored. -/
def saysIgnored (message : String) : Bool :=
  "Ignoring system inheritance on".toList.isPrefixOf message.toList

theorem saysIgnored_ignoredParent (system : String) :
    saysIgnored (Warning.message (.ignoredParent system)) = true := by
  have hsplit : "Ignoring system inheritance on '" = "Ignoring system inheritance on" ++ " '" := by
    decide
  unfold saysIgnored Warning.message
  dsimp only
  rw [hsplit, String.append_assoc, String.append_assoc, String.toList_append]
  exact List.isPrefixOf_iff_prefix.2 (List.prefix_append _ _)

theorem saysIgnored_of_head {message : String} {c : Char} (hhead : message.toList.head? = some c)
    (hc : c ≠ 'I') : saysIgnored message = false :=
  isPrefixOf_eq_false_of_head (by decide) hhead hc.symm

theorem saysIgnored_of_isRepeat {config : Config} {p : Program} {output : Output}
    (h : (compile config p).outcome = .ok output) {w : Warning} (hw : w ∈ output.warnings)
    (hrepeat : w.isRepeat = true) : saysIgnored w.message = false := by
  have hmem := List.mem_filter.2 ⟨hw, hrepeat⟩
  rw [warnings_compile h, List.mem_append, List.mem_append] at hmem
  rcases hmem with (hmem | hmem) | hmem
  · obtain ⟨pair, -, rfl⟩ := List.mem_map.1 hmem
    have hhead : (collision "Component" pair).message.toList.head? = some 'C' := by
      unfold collision Warning.message
      simp
    exact saysIgnored_of_head hhead (by decide)
  · obtain ⟨pair, -, rfl⟩ := List.mem_map.1 hmem
    have hhead : (Warning.redeclared pair.1.name.val).message.toList.head? = some 'T' := by
      unfold Warning.message
      simp
    exact saysIgnored_of_head hhead (by decide)
  · obtain ⟨pair, -, rfl⟩ := List.mem_map.1 hmem
    have hhead : (collision "System" pair).message.toList.head? = some 'S' := by
      unfold collision Warning.message
      simp
    exact saysIgnored_of_head hhead (by decide)

theorem saysIgnored_message {config : Config} {p : Program} {output : Output}
    (h : (compile config p).outcome = .ok output) {w : Warning} (hw : w ∈ output.warnings) :
    saysIgnored w.message = !w.isRepeat := by
  cases w with
  | ignoredParent system => exact saysIgnored_ignoredParent system
  | sharedFile label name first file => exact saysIgnored_of_isRepeat h hw rfl
  | redeclared template => exact saysIgnored_of_isRepeat h hw rfl

theorem flatMap_ignored_spatial (ss : List System) :
    ss.flatMap (System.ignored .spatial)
      = (ss.filter fun s => s.parent.isSome).map fun s => .ignoredParent s.name.val := by
  induction ss with
  | nil => rfl
  | cons s ss ih =>
    rw [List.flatMap_cons, ih]
    rcases hparent : s.parent with _ | parent
    · simp [System.ignored, hparent]
    · simp [System.ignored, hparent]

theorem Turns.isRepeat_of_flat {config : Config} (hflat : config.variant = .flat)
    {known : Table String Resolved} {claims : Table String String} {turns : List SystemTurn}
    (h : Turns config known claims turns) :
    ∀ t ∈ turns, ∀ w ∈ t.warnings, w.isRepeat = true := by
  intro t ht w hw
  obtain ⟨collisions, heq, hshared, -⟩ := h.warned t ht
  rw [heq, hflat] at hw
  obtain ⟨first, rfl⟩ := hshared w hw
  rfl

/-- The turns for the three-dimensional runtime warn of the same repeated files, and of every parent
besides. -/
theorem filter_spatial {turns : List SystemTurn}
    (h : ∀ t ∈ turns, ∀ w ∈ t.warnings, w.isRepeat = true) :
    ((turns.map SystemTurn.spatial).flatMap SystemTurn.warnings).filter Warning.isRepeat
        = turns.flatMap SystemTurn.warnings ∧
      ((turns.map SystemTurn.spatial).flatMap SystemTurn.warnings).filter (fun w => !w.isRepeat)
        = (turns.map SystemTurn.system).flatMap (System.ignored .spatial) := by
  induction turns with
  | nil => exact ⟨rfl, rfl⟩
  | cons t turns ih =>
    obtain ⟨hfirst, hlater⟩ := List.forall_mem_cons.1 h
    obtain ⟨hrepeats, hignored⟩ := ih hlater
    have hnone : (t.system.ignored .spatial).filter Warning.isRepeat = [] :=
      filter_isRepeat_ignored .spatial t.system
    have hall : (t.system.ignored .spatial).filter (fun w => !w.isRepeat)
        = t.system.ignored .spatial := filter_map_of_all fun _ => rfl
    have hkept : t.warnings.filter Warning.isRepeat = t.warnings := List.filter_eq_self.2 hfirst
    have hlost : t.warnings.filter (fun w => !w.isRepeat) = [] :=
      List.filter_eq_nil_iff.2 fun w hw => by simp [hfirst w hw]
    constructor
    · simp only [List.map_cons, List.flatMap_cons, SystemTurn.spatial, List.filter_append, hnone,
        hkept, List.nil_append]
      exact congrArg _ hrepeats
    · simp only [List.map_cons, List.flatMap_cons, SystemTurn.spatial, List.filter_append, hall,
        hlost, List.append_nil]
      exact congrArg _ hignored

/-! ### Files for two runtimes -/

/-- **Two texts that differ only in the runtime they import from.** The first statement of both
imports `names` from a runtime, and then `others`; all that follows is the same. -/
def DifferInRuntime (names : List String) (others : List Script.Import) (a b : String) : Prop :=
  ∃ rest,
    a = Script.importBlock
        (names.map (Script.Import.named · (Variant.runtimeModule .flat)) ++ others) ++ rest ∧
    b = Script.importBlock
        (names.map (Script.Import.named · (Variant.runtimeModule .spatial)) ++ others) ++ rest

/-- **The files of a component** for the two runtimes. -/
structure ComponentTwins (a b : Artifact) : Prop where
  name : b.name = a.name
  file : b.file = a.file
  kinds : a.kind = .component ∧ b.kind = .component
  source : DifferInRuntime ["Component", "Helper"] [] a.source b.source

/-- **The files of a system** for the two runtimes. Both list the same components, and the one for
the three-dimensional runtime has the general base class. -/
structure SystemTwins (a b : Artifact) : Prop where
  name : b.name = a.name
  file : b.file = a.file
  sources : ∃ base required, required ≠ [] ∧
    a.kind = .system base ∧
    a.source = Script.systemModule (Variant.runtimeModule .flat) a.name base required ∧
    b.kind = .system (some .system) ∧
    b.source = Script.systemModule (Variant.runtimeModule .spatial) a.name (some .system) required

/-- **The factories** for the two runtimes. -/
structure FactoryTwins (a b : Artifact) : Prop where
  name : b.name = a.name
  file : b.file = a.file
  kind : b.kind = a.kind
  source : ∃ others, DifferInRuntime ["World"] others a.source b.source

section Twins
variable {c d : Config} (hflat : c.variant = .flat) (hspatial : d.variant = .spatial)
include hflat hspatial

theorem componentTwins (component : Component) :
    ComponentTwins (componentArtifact c component) (componentArtifact d component) where
  name := rfl
  file := rfl
  kinds := ⟨rfl, rfl⟩
  source := by
    unfold DifferInRuntime componentArtifact Script.componentModule
    rw [hflat, hspatial]
    simp only [String.append_assoc]
    exact ⟨_, rfl, rfl⟩

theorem factoryTwins (catalog : Catalog) :
    FactoryTwins (factoryArtifact c catalog) (factoryArtifact d catalog) where
  name := rfl
  file := rfl
  kind := rfl
  source := by
    unfold DifferInRuntime factoryArtifact Script.factoryModule Script.factoryImports
    rw [hflat, hspatial]
    simp only [String.append_assoc]
    exact ⟨_, _, rfl, rfl⟩

theorem SystemTurn.twins {t : SystemTurn} (h : t.required ≠ []) :
    SystemTwins (t.artifact c) (t.spatial.artifact d) where
  name := rfl
  file := rfl
  sources := by
    refine ⟨t.system.base .flat, t.required, h, ?_, ?_, ?_, ?_⟩
    · rw [SystemTurn.artifact, hflat, systemArtifact]
    · rw [SystemTurn.artifact, hflat, systemArtifact, hflat]
    · rw [SystemTurn.artifact, hspatial]
      rfl
    · rw [SystemTurn.artifact, hspatial, systemArtifact, hspatial]
      rfl

theorem systemTwins (turns : List SystemTurn) :
    List.Forall₂ SystemTwins ((acceptedTurns turns).map (SystemTurn.artifact c))
      ((acceptedTurns (turns.map SystemTurn.spatial)).map (SystemTurn.artifact d)) := by
  rw [acceptedTurns_map_spatial, List.map_map, List.forall₂_map_left_iff,
    List.forall₂_map_right_iff, List.forall₂_same]
  intro t ht
  have haccepted : t.isAccepted = true := (List.mem_filter.1 ht).2
  have hrequired : t.required ≠ [] := by simpa [SystemTurn.isAccepted] using haccepted
  exact SystemTurn.twins hflat hspatial hrequired

/-! ### Compilations for two runtimes -/

variable (hc : c.lenient = true) (hd : d.lenient = true)
include hc hd

/-- **A compilation for the other runtime,** turn by turn. It has the warnings of the given one and
those about ignored parents. -/
theorem exists_compile_spatial {p : Program} {flat : Output}
    (h : (compile c p).outcome = .ok flat) :
    ∃ spatial, (compile d p).outcome = .ok spatial ∧
      spatial.projectName = flat.projectName ∧ spatial.rejected = flat.rejected ∧
      List.Forall₂ ComponentTwins flat.components spatial.components ∧
      List.Forall₂ SystemTwins flat.systems spatial.systems ∧
      FactoryTwins flat.factory spatial.factory ∧
      spatial.warnings.filter Warning.isRepeat = flat.warnings ∧
      spatial.warnings.filter (fun w => !w.isRepeat)
        = p.systems.flatMap (System.ignored .spatial) := by
  have hlenient : c.lenient = d.lenient := hc.trans hd.symm
  obtain ⟨catalog, hcomponents, htemplates, hsystems, -⟩ := outcome_compile_eq_ok_iff.1 h
  obtain ⟨turns, hturns, hall⟩ := exists_turns hsystems
  generalize flat.components = components at hcomponents
  obtain ⟨-, houtcome⟩ := compile_of_turns hcomponents htemplates hturns hall
  obtain rfl := Except.ok.inj (h.symm.trans houtcome)
  obtain ⟨-, hfiles⟩ := buildComponents_repeats claims_empty hcomponents
  obtain ⟨-, hnames⟩ := buildTemplates_repeats Catalog.knows_empty htemplates
  -- The same phases for the other runtime.
  obtain ⟨rfl, hcomponents', hsame⟩ := buildComponents_retarget hlenient hcomponents
  have hbuilt := (eqRelation hlenient).buildTemplates p.templates .empty
  have htemplates' := htemplates
  rw [hbuilt] at htemplates'
  have hall' : (turns.map SystemTurn.spatial).map SystemTurn.system = p.systems := by
    rw [List.map_map, ← hall]
    rfl
  obtain ⟨-, houtcome'⟩ := compile_of_turns hcomponents' htemplates'
    (hturns.spatial hflat hspatial hc hd) hall'
  obtain ⟨hkept, hwarned⟩ := filter_spatial (hturns.isRepeat_of_flat hflat)
  refine ⟨_, houtcome', rfl, ?_, ?_, systemTwins hflat hspatial turns,
    factoryTwins hflat hspatial catalog, ?_, ?_⟩
  · rw [rejectedTurns_map_spatial, List.map_map]
    rfl
  · rw [List.forall₂_map_left_iff, List.forall₂_map_right_iff, List.forall₂_same]
    exact fun component _ => componentTwins hflat hspatial component
  · rw [List.filter_append, List.filter_append, hkept, ← hbuilt, hsame, hfiles, hnames,
      filter_map_of_all fun _ => rfl, filter_map_of_all fun _ => rfl]
  · rw [List.filter_append, List.filter_append, hwarned, hall, ← hbuilt, hsame, hfiles, hnames,
      filter_map_of_none fun _ => rfl, filter_map_of_none fun _ => rfl, List.nil_append,
      List.nil_append]

end Twins

/-- **No base class is unknown** to the three-dimensional runtime. -/
theorem outcome_compile_ne_unknownBase {config : Config} (hspatial : config.variant = .spatial)
    (p : Program) (system base : String) :
    (compile config p).outcome ≠ .error (.unknownBase system base) := by
  have hlenient : (compile { config with lenient := true } p).outcome
      ≠ .error (.unknownBase system base) := by
    intro h
    rcases (outcome_compile_eq_error_iff_offender rfl).1 h with
      ⟨t, parent, -, -, heq⟩ | ⟨-, hflat, -⟩
    · cases heq
    · simp [hspatial] at hflat
  rcases config with ⟨variant, lenient, overwrite⟩
  cases lenient with
  | true => exact hlenient
  | false =>
    -- A strict compilation ends like the lenient one, or on a warning.
    have hcut := cutShort_compile ⟨variant, false, overwrite⟩ p
    revert hcut hlenient
    dsimp only
    generalize compile ⟨variant, true, overwrite⟩ p = r
    generalize compile ⟨variant, false, overwrite⟩ p = s
    intro hlenient hcut
    cases hcut with
    | same => exact hlenient
    | cut => exact nofun

theorem filter_message {ws : List Warning}
    (h : ∀ w ∈ ws, saysIgnored w.message = !w.isRepeat) :
    (ws.map Warning.message).filter (fun m => !saysIgnored m)
        = (ws.filter Warning.isRepeat).map Warning.message ∧
      (ws.map Warning.message).filter saysIgnored
        = (ws.filter fun w => !w.isRepeat).map Warning.message := by
  rw [List.filter_map, List.filter_map]
  constructor
  · exact congrArg _ (List.filter_congr fun w hw => by simp [h w hw])
  · exact congrArg _ (List.filter_congr fun w hw => by simp [h w hw])

/-- **The variant changes only runtimes, base classes and warnings about parents.** Where a lenient
compilation succeeds for the two-dimensional runtime, it succeeds for the three-dimensional one,
with the same name and the same rejected systems. Components and the factory differ in the runtime
that they import from, and in nothing else. Systems have the same names and files and list the same
components, and their base class is the general one. The messages are the same once those about
ignored parents are left out, and of these there is one for every system that names a parent, in the
order of the systems. For the three-dimensional runtime no compilation, lenient or not, fails on an
unknown base class. -/
theorem compile_spatial_of_flat (config : Config) (p : Program) :
    (∀ flat, (compile { config with variant := .flat, lenient := true } p).outcome = .ok flat →
      ∃ spatial,
        (compile { config with variant := .spatial, lenient := true } p).outcome = .ok spatial ∧
        spatial.projectName = flat.projectName ∧ spatial.rejected = flat.rejected ∧
        List.Forall₂ ComponentTwins flat.components spatial.components ∧
        List.Forall₂ SystemTwins flat.systems spatial.systems ∧
        FactoryTwins flat.factory spatial.factory ∧
        (spatial.warnings.map Warning.message).filter (fun m => !saysIgnored m)
          = flat.warnings.map Warning.message ∧
        (spatial.warnings.map Warning.message).filter saysIgnored
          = (p.systems.filter fun s => s.parent.isSome).map fun s =>
              "Ignoring system inheritance on '" ++ s.name.val ++ "'") ∧
    ∀ lenient system base,
      (compile { config with variant := .spatial, lenient := lenient } p).outcome
        ≠ .error (.unknownBase system base) := by
  refine ⟨fun flat h => ?_, fun lenient => outcome_compile_ne_unknownBase rfl p⟩
  obtain ⟨spatial, hspatial, hname, hrejected, hcomponents, hsystems, hfactory, hrepeats,
    hignored⟩ :=
    exists_compile_spatial (d := { config with variant := .spatial, lenient := true }) rfl rfl rfl
      rfl h
  obtain ⟨hkept, hsaid⟩ := filter_message fun w hw => saysIgnored_message hspatial hw
  refine ⟨spatial, hspatial, hname, hrejected, hcomponents, hsystems, hfactory, ?_, ?_⟩
  · rw [hkept, hrepeats]
  · rw [hsaid, hignored, flatMap_ignored_spatial, List.map_map]
    rfl

/-- The chases with a component of their own. -/
def packedChases : Program :=
  { chases with components := [⟨⟨"Body", ⟨70, 74⟩⟩, [("mass", .number "1")]⟩] }

theorem compile_spatial_of_flat_chases : ∃ flat spatial,
    ((compile { lenient := true } packedChases).outcome = .ok flat ∧
      flat.warnings = [.redeclared "Wolf", .sharedFile "System" "HuntSystem" "Hunt" "hunt.js"]) ∧
    (compile { variant := .spatial, lenient := true } packedChases).outcome = .ok spatial ∧
    spatial.rejected = flat.rejected ∧
    List.Forall₂ ComponentTwins flat.components spatial.components ∧
    List.Forall₂ SystemTwins flat.systems spatial.systems ∧
    FactoryTwins flat.factory spatial.factory ∧
    (spatial.warnings.map Warning.message).filter (fun m => !saysIgnored m)
      = flat.warnings.map Warning.message ∧
    (spatial.warnings.map Warning.message).filter saysIgnored
      = ["Ignoring system inheritance on 'Hunt'", "Ignoring system inheritance on 'Hunt'"] := by
  obtain ⟨flat, h, hwarnings⟩ : ∃ flat,
      (compile { lenient := true } packedChases).outcome = .ok flat ∧
        flat.warnings = [.redeclared "Wolf", .sharedFile "System" "HuntSystem" "Hunt" "hunt.js"] :=
    Run.exists_ok_of_map_eq (by decide +kernel)
  obtain ⟨spatial, hspatial, -, hrejected, hcomponents, hsystems, hfactory, hkept, hignored⟩ :=
    (compile_spatial_of_flat {} packedChases).1 flat h
  exact ⟨flat, spatial, ⟨h, hwarnings⟩, hspatial, hrejected, hcomponents, hsystems, hfactory, hkept,
    hignored⟩

end EntityForge
