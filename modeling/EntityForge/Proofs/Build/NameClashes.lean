import EntityForge.Proofs.Build.Factory

/-! # Names that clash with the runtime

The variables of a generated file are named by the description and by the runtime, side by side, and
nothing keeps the two apart. A name of the description that is also a fixed name of its file binds
one variable twice; if the fixed name is one of the runtime, the rest of the file no longer finds
what it has required. No other variable is bound twice.

* `ArtifactKind.runtimeNames`, `ArtifactKind.ownNames`, `Program.namesIn`: the names in a file.
* `Artifact.Binds`: the variables of a file, by where their names come from.
* `compileSource_rebinds_iff`: when a file binds a variable twice. -/

namespace EntityForge

open Script

/-! ### The names in a file -/

/-- **The names from the runtime** that a file requires. -/
def ArtifactKind.runtimeNames : ArtifactKind → List String
  | .component => ["Component", "Helper"]
  | .system base => BaseClass.runtimeNames base
  | .factory _ => ["World"]

/-- The names that a file gives to variables of its own. -/
def ArtifactKind.ownNames : ArtifactKind → List String
  | .factory _ => ["Factory"]
  | _ => []

/-- **The names of a description in a file:** those of all instances in the factory, and that of the
component or system in any other. -/
def Program.namesIn (p : Program) (a : Artifact) : List String :=
  match a.kind with
  | .factory _ => p.instanceNames.eraseDups
  | _ => [a.name]

/-- **The variables of a file,** behind those of the runtime. -/
structure Artifact.Binds (a : Artifact) (runtime : String) (p : Program)
    (others : List (String × String)) : Prop where
  bindings_eq : bindings a.source
    = (runtimeImports runtime a.kind.runtimeNames).map Import.binding ++ others
  not_required : ∀ b ∈ others, ∀ n, b.2 ≠ requiredFrom runtime n
  perm : (others.map Prod.fst).Perm (a.kind.ownNames ++ p.namesIn a)

theorem binds_component (config : Config) (p : Program) {c : Component}
    (hname : IsWord c.name.val) (hps : ∀ q ∈ c.properties, q.2.WellSpelled) :
    (componentArtifact config c).Binds config.variant.runtimeModule p
      [(c.name.val, "function(options) ")] where
  bindings_eq := bindings_componentModule _ hname hps
  not_required := by simp [requiredFrom, ← String.toList_inj]
  perm := .refl _

theorem binds_system (config : Config) (p : Program) {s : System} (hname : IsWord s.name.val)
    (base : Option BaseClass) {required : List String} (hrequired : required ≠ []) :
    (systemArtifact config s base required).Binds config.variant.runtimeModule p
      [(s.name.val, "function() ")] where
  bindings_eq := bindings_systemModule _ hname base hrequired
  not_required := by simp [requiredFrom, ← String.toList_inj]
  perm := .refl _

theorem importPath_ne_requiredFrom (variant : Variant) (c n : String) :
    (Import.whole c (importPath c)).binding.2 ≠ requiredFrom variant.runtimeModule n := by
  intro heq
  have hchars := congrArg (fun s => (s.toList.drop 9).head?) heq
  cases variant <;>
    simp [Import.whole, Import.binding, requiredFrom, importPath, quote, quoteChar,
      Variant.runtimeModule] at hchars

theorem perm_namesUsed {catalog : Catalog} {p : Program} (h : catalog.Resolves p.templates) :
    catalog.used.flatten.eraseDups.Perm p.instanceNames.eraseDups :=
  (List.perm_ext_iff_of_nodup (nodup_eraseDups _) (nodup_eraseDups _)).2 fun name => by
    rw [List.mem_eraseDups, List.mem_eraseDups, h.mem_used_iff]

theorem binds_factory (config : Config) {source : String} {p : Program} {catalog : Catalog}
    (hread : readProgram source = .ok p)
    (h : (buildTemplates config .empty p.templates).outcome = .ok catalog) :
    (factoryArtifact config catalog).Binds config.variant.runtimeModule p
      ((componentImports catalog.used.flatten.eraseDups).map Import.binding
        ++ [("Factory", objectHead catalog.entries)]) where
  bindings_eq := bindings_factoryArtifact hread h
  not_required := by
    refine List.forall_mem_append.2 ⟨List.forall_mem_map.2 fun i hi n => ?_, ?_⟩
    · obtain ⟨c, -, rfl⟩ := mem_componentImports.1 hi
      exact importPath_ne_requiredFrom _ c n
    · unfold objectHead
      split_ifs <;> simp [requiredFrom, ← String.toList_inj]
  perm := by
    have hresolves : catalog.Resolves p.templates :=
      resolves_of_buildTemplates Catalog.resolves_empty h
    have hnames : ((componentImports catalog.used.flatten.eraseDups).map
        (Prod.fst ∘ Import.binding)).Perm p.instanceNames.eraseDups :=
      (perm_componentImports _).trans (perm_namesUsed hresolves)
    rw [List.map_append, List.map_map]
    exact (hnames.append_right ["Factory"]).trans List.perm_append_comm

/-- **Every file of a compilation** binds its variables so. -/
theorem exists_binds {config : Config} {source : String} {p : Program} {output : Output}
    (hread : readProgram source = .ok p) (h : (compile config p).outcome = .ok output) :
    ∀ a ∈ output.artifacts, ∃ others, a.Binds config.variant.runtimeModule p others := by
  obtain ⟨catalog, hcomponents, htemplates, hsystems, hfactory, -⟩ := outcome_compile_eq_ok_iff.1 h
  obtain ⟨hartifacts, -⟩ := buildComponents_repeats claims_empty hcomponents
  obtain ⟨turns, -, hturns, haccepted, -⟩ := turns_of_buildSystems hsystems
  have hwords := namesAreWords_of_readProgram hread
  refine List.forall_mem_append.2 ⟨List.forall_mem_append.2 ⟨?_, ?_⟩, ?_⟩
  · rw [hartifacts]
    refine List.forall_mem_map.2 fun c hc =>
      ⟨_, binds_component config p (hwords.components c hc) ?_⟩
    exact wellSpelled_of_parseDescription (parseDescription_of_readProgram hread)
      (List.mem_append_left _ (List.mem_map_of_mem hc))
  · rw [haccepted]
    refine List.forall_mem_map.2 fun t ht => ?_
    obtain ⟨hmem, hrequired⟩ := List.mem_filter.1 ht
    have hsystem : t.system ∈ p.systems := hturns ▸ List.mem_map_of_mem hmem
    exact ⟨_, binds_system config p (hwords.systems _ hsystem) _ (of_decide_eq_true hrequired)⟩
  · rw [hfactory]
    exact List.forall_mem_singleton.2 ⟨_, binds_factory config hread htemplates⟩

/-! ### Clashes -/

theorem nodup_fixedNames (kind : ArtifactKind) : (kind.runtimeNames ++ kind.ownNames).Nodup := by
  rcases kind with _ | (_ | base) | creators
  · decide
  · decide
  · cases base <;> decide
  · change ["World", "Factory"].Nodup
    decide

theorem nodup_namesIn (p : Program) (a : Artifact) : (p.namesIn a).Nodup := by
  unfold Program.namesIn
  split
  · exact nodup_eraseDups _
  · exact List.nodup_singleton _

section Clash
variable {a : Artifact} {runtime : String} {p : Program} {others : List (String × String)}
  (h : a.Binds runtime p others)
include h

theorem Artifact.Binds.perm_names : ((bindings a.source).map Prod.fst).Perm
    (a.kind.runtimeNames ++ a.kind.ownNames ++ p.namesIn a) := by
  have hruntime : ((runtimeImports runtime a.kind.runtimeNames).map Import.binding).map Prod.fst
      = a.kind.runtimeNames := by
    rw [runtimeImports, List.map_map, List.map_map]
    exact List.map_id _
  rw [h.bindings_eq, List.map_append, hruntime, List.append_assoc]
  exact h.perm.append_left _

theorem Artifact.Binds.nodup_iff : ((bindings a.source).map Prod.fst).Nodup ↔
    ∀ n ∈ p.namesIn a, n ∉ a.kind.runtimeNames ++ a.kind.ownNames := by
  rw [h.perm_names.nodup_iff, List.nodup_append']
  constructor
  · rintro ⟨-, -, hdisjoint⟩ n hn hfixed
    exact hdisjoint hfixed hn
  · intro hnot
    exact ⟨nodup_fixedNames a.kind, nodup_namesIn p a, fun n hfixed hn => hnot n hn hfixed⟩

theorem Artifact.Binds.standsFor_iff {n : String} (hn : n ∈ a.kind.runtimeNames) :
    standsFor a.source n = some (requiredFrom runtime n) ↔ n ∉ p.namesIn a := by
  have hown : n ∉ a.kind.ownNames := (List.nodup_append'.1 (nodup_fixedNames a.kind)).2.2 hn
  rw [standsFor_eq_iff h.bindings_eq h.not_required hn, h.perm.mem_iff, List.mem_append, not_or]
  exact and_iff_right hown

end Clash

/-- **A file binds no variable twice unless a name of the description is one of its fixed names.**
Of every source that compiles, with warnings or without, the variables of a file are the names that
it requires from the runtime, its own name if it is the factory, and the names of the description
that belong to it. They are distinct exactly if the last do not meet the others, and what is
required from the runtime is still found under its name exactly if that is not one of the last. -/
theorem compileSource_rebinds_iff {config : Config} {source : String} {output : Output}
    (h : (compileSource config source).outcome = .ok output) :
    ∃ p, readProgram source = .ok p ∧ ∀ a ∈ output.artifacts,
      ((bindings a.source).map Prod.fst).Perm
        (a.kind.runtimeNames ++ a.kind.ownNames ++ p.namesIn a) ∧
      (((bindings a.source).map Prod.fst).Nodup ↔
        ∀ n ∈ p.namesIn a, n ∉ a.kind.runtimeNames ++ a.kind.ownNames) ∧
      ∀ n ∈ a.kind.runtimeNames,
        standsFor a.source n = some (requiredFrom config.variant.runtimeModule n) ↔
          n ∉ p.namesIn a := by
  obtain ⟨p, hread, hcompile⟩ := outcome_compileSource_eq_ok_iff.1 h
  refine ⟨p, hread, fun a ha => ?_⟩
  obtain ⟨others, hbinds⟩ := exists_binds hread hcompile a ha
  exact ⟨hbinds.perm_names, hbinds.nodup_iff, fun n hn => hbinds.standsFor_iff hn⟩

/-- A description with a file of every kind, in which no names meet. -/
def bearSource : String :=
  "project P component Body \x7b x: 1 \x7d template Bear \x7b Body \x7b\x7d Mind \x7b\x7d \x7d "
    ++ "system Draw extends RenderSystem \x7b entities: [Bear] \x7d"

theorem compileSource_rebinds_iff_bear : ∃ output,
    (compileSource {} bearSource).outcome = .ok output ∧
    output.artifacts.map (fun a => (a.name, a.kind.runtimeNames))
      = [("Body", ["Component", "Helper"]), ("Draw", ["RenderSystem", "Helper"]),
        ("Factory", ["World"])] ∧
    ∀ a ∈ output.artifacts, ((bindings a.source).map Prod.fst).Nodup ∧
      ∀ n ∈ a.kind.runtimeNames, standsFor a.source n = some (requiredFrom "psykick2d" n) := by
  obtain ⟨output, h, hartifacts⟩ : ∃ output, (compileSource {} bearSource).outcome = .ok output ∧
      output.artifacts.map (fun a => (a.name, a.kind)) = [("Body", .component),
        ("Draw", .system (some .renderSystem)), ("Factory", .factory [⟨"Bear", "createBear"⟩])] :=
    Run.exists_ok_of_map_eq (by decide +kernel)
  obtain ⟨p, hread, hfiles⟩ := compileSource_rebinds_iff h
  have hinstances : p.instanceNames = ["Body", "Mind"] := by
    have hmap : (readProgram bearSource).toOption.map Program.instanceNames
        = some ["Body", "Mind"] := by decide +kernel
    rw [hread] at hmap
    exact Option.some.inj hmap
  have hapart : ∀ a ∈ output.artifacts,
      ∀ n ∈ p.namesIn a, n ∉ a.kind.runtimeNames ++ a.kind.ownNames := by
    intro a ha
    have hmem : (a.name, a.kind) ∈ output.artifacts.map fun a => (a.name, a.kind) :=
      List.mem_map_of_mem ha
    rw [hartifacts] at hmem
    simp only [List.mem_cons, Prod.mk.injEq, List.not_mem_nil, or_false] at hmem
    unfold Program.namesIn
    rcases hmem with ⟨hname, hkind⟩ | ⟨hname, hkind⟩ | ⟨-, hkind⟩
    · rw [hname, hkind]
      exact List.forall_mem_singleton.2 (by decide)
    · rw [hname, hkind]
      exact List.forall_mem_singleton.2 (by decide)
    · rw [hkind, hinstances]
      change ∀ n ∈ ["Body", "Mind"].eraseDups, n ∉ ["World", "Factory"]
      decide +kernel
  refine ⟨output, h, ?_, fun a ha => ?_⟩
  · have hmap := congrArg (List.map fun x : String × ArtifactKind => (x.1, x.2.runtimeNames))
      hartifacts
    rwa [List.map_map] at hmap
  · obtain ⟨-, hnodup, hstands⟩ := hfiles a ha
    exact ⟨hnodup.2 (hapart a ha), fun n hn => (hstands n hn).2 fun hmem =>
      hapart a ha n hmem (List.mem_append_left _ hn)⟩

/-- **A file without warnings that loses a name of the runtime:** the name is bound twice, and
stands for something else than what the file requires. -/
def Loses (config : Config) (source name : String) : Prop :=
  ∃ output, (compileSource config source).outcome = .ok output ∧ output.warnings = [] ∧
    ∃ a ∈ output.artifacts, name ∈ a.kind.runtimeNames ∧
      ¬ ((bindings a.source).map Prod.fst).Nodup ∧
      standsFor a.source name ≠ some (requiredFrom config.variant.runtimeModule name)

/-- Whether a description gives a file such a name, and no warning. -/
def takes (config : Config) (source name : String) : Bool :=
  match readProgram source, (compileSource config source).outcome with
  | .ok p, .ok output =>
    output.warnings.isEmpty && output.artifacts.any fun a =>
      decide (name ∈ a.kind.runtimeNames) && decide (name ∈ p.namesIn a)
  | _, _ => false

theorem loses_of_takes {config : Config} {source name : String}
    (h : takes config source name = true) : Loses config source name := by
  unfold takes at h
  split at h
  · next p output hread houtput =>
    rw [Bool.and_eq_true, List.isEmpty_iff, List.any_eq_true] at h
    obtain ⟨hwarnings, a, ha, hnames⟩ := h
    rw [Bool.and_eq_true, decide_eq_true_eq, decide_eq_true_eq] at hnames
    obtain ⟨hruntime, hname⟩ := hnames
    obtain ⟨q, hq, hcompile⟩ := outcome_compileSource_eq_ok_iff.1 houtput
    obtain rfl : q = p := Except.ok.inj (hq.symm.trans hread)
    obtain ⟨others, hbinds⟩ := exists_binds hread hcompile a ha
    exact ⟨output, houtput, hwarnings, a, ha, hruntime,
      fun hnodup => hbinds.nodup_iff.1 hnodup name hname (List.mem_append_left _ hruntime),
      fun hstands => (hbinds.standsFor_iff hruntime).1 hstands hname⟩
  · cases h

/-- **Nothing keeps the names of the runtime from being taken** by a component, by a system or by an
instance in a template. -/
theorem compileSource_takes_runtime_names :
    Loses {} "project P component Helper \x7b\x7d" "Helper" ∧
    Loses { variant := .spatial } "project P system System \x7b components: [Body] \x7d" "System" ∧
    Loses {} "project P template T \x7b World \x7b\x7d \x7d" "World" :=
  ⟨loses_of_takes (by decide +kernel), loses_of_takes (by decide +kernel),
    loses_of_takes (by decide +kernel)⟩

end EntityForge
