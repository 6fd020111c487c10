import EntityForge.Proofs.Build.FileNames
import EntityForge.Proofs.Build.Imports
import EntityForge.Proofs.Build.Turns
import EntityForge.Proofs.Script.ModuleBindings

/-! # The factory of a description

The factory creates the entities of all templates, so it has to import every component that one of
them uses, and it imports nothing else but the world. A component comes from the file where its own
declaration is put. The templates of a description are made of words and of literals that read back,
so the imports are the variables that can be read off the text of the factory.

* `Catalog.Resolves.exists_instance`, `Catalog.Resolves.mem_used_iff`: what blueprints hold stands
  in the templates.
* `Catalog.Resolves.isPlain`: the blueprints of a description are made of its words and literals.
* `bindings_factoryArtifact`: the variables of the factory.
* `FactoryImports`, `compile_closes_imports`: the imports of a program that compiles. -/

namespace EntityForge

open Script

/-! ### Blueprints of a description -/

/-- **What a blueprint holds stands in a template.** -/
theorem Catalog.Resolves.exists_instance {catalog : Catalog} {ts : List Template}
    (h : catalog.Resolves ts) {entry : Blueprint} (hentry : entry ∈ catalog.entries) :
    (∃ t ∈ ts, entry.template = t.name.val) ∧
      ∀ p ∈ entry.components.pairs, ∃ t ∈ ts, ∃ c ∈ t.instances,
        (c.name.val, c.properties) = p := by
  obtain ⟨i, hi, rfl⟩ := List.getElem_of_mem hentry
  have hlt : i < ts.length := h.length ▸ hi
  obtain ⟨lineage, resolved, hlineage, hfound, hlast⟩ :=
    h.entries i _ (List.getElem?_eq_getElem hlt)
  rw [List.getElem?_eq_getElem hi, Option.some.injEq] at hfound
  rw [hfound]
  refine ⟨⟨_, List.getElem_mem hlt, rfl⟩, fun p hp => ?_⟩
  obtain ⟨t, ht, c, hc, heq⟩ := mem_flatten.1 (hlast.mem_of_mem_pairs hp)
  exact ⟨t, hlineage.subset ht, c, hc, heq⟩

/-- The names of all instances in the templates of a program. -/
def Program.instanceNames (p : Program) : List String :=
  p.templates.flatMap fun t => t.instances.map fun c => c.name.val

/-- **The blueprints use the instances of the templates,** and no others. -/
theorem Catalog.Resolves.mem_used_iff {catalog : Catalog} {p : Program}
    (h : catalog.Resolves p.templates) (name : String) :
    name ∈ catalog.used.flatten ↔ name ∈ p.instanceNames := by
  simp only [Program.instanceNames, List.mem_flatten, List.mem_flatMap, List.mem_map, Catalog.used]
  constructor
  · rintro ⟨_, ⟨entry, hentry, rfl⟩, hname⟩
    obtain ⟨pair, hpair, rfl⟩ := List.mem_map.1 hname
    obtain ⟨t, ht, c, hc, rfl⟩ := (h.exists_instance hentry).2 pair hpair
    exact ⟨t, ht, c, hc, rfl⟩
  · rintro ⟨t, ht, c, hc, rfl⟩
    obtain ⟨i, hi⟩ := List.getElem?_of_mem ht
    obtain ⟨lineage, resolved, hlineage, hentry, hlast⟩ := h.entries i t hi
    refine ⟨resolved.keys, ⟨_, List.mem_of_getElem? hentry, rfl⟩, ?_⟩
    rw [hlast.keys, List.mem_eraseDups]
    exact List.mem_map_of_mem (mem_flatten.2 ⟨t, hlineage.mem_self hi, c, hc, rfl⟩)

theorem Catalog.Resolves.isPlain {catalog : Catalog} {source : String} {p : Program}
    (h : catalog.Resolves p.templates) (hread : readProgram source = .ok p) :
    ∀ e ∈ catalog.entries, e.IsPlain := by
  intro e he
  obtain ⟨⟨t, ht, htemplate⟩, hcomponents⟩ := h.exists_instance he
  refine ⟨?_, fun pair hpair => ?_, fun pair hpair => ?_⟩
  · rw [htemplate]
    exact (isWordChar_of_mem_templates hread ht).1
  · obtain ⟨t, ht, c, hc, rfl⟩ := hcomponents pair hpair
    exact (isWordChar_of_mem_templates hread ht).2 c hc
  · obtain ⟨t, ht, c, hc, rfl⟩ := hcomponents pair hpair
    refine wellSpelled_of_parseDescription (parseDescription_of_readProgram hread) ?_
    exact List.mem_append_right _ (List.mem_flatMap.2 ⟨t, ht, List.mem_map_of_mem hc⟩)

/-! ### The variables of the factory -/

theorem bindings_factoryArtifact {config : Config} {source : String} {p : Program}
    {catalog : Catalog} (hread : readProgram source = .ok p)
    (h : (buildTemplates config .empty p.templates).outcome = .ok catalog) :
    bindings (factoryArtifact config catalog).source
      = (Import.named "World" config.variant.runtimeModule
          :: componentImports catalog.used.flatten.eraseDups).map Import.binding
        ++ [("Factory", objectHead catalog.entries)] := by
  have hresolves : catalog.Resolves p.templates :=
    resolves_of_buildTemplates Catalog.resolves_empty h
  have hempty : HoldsFiles Catalog.empty.files Catalog.empty.used.flatten := rfl
  have himports := (holdsFiles_of_buildTemplates hempty h).factoryImports
    config.variant.runtimeModule
  have hplain : ∀ i ∈ factoryImports config.variant.runtimeModule catalog.files, i.IsPlain := by
    have hworld : ∀ n ∈ ["World"], IsWord n :=
      List.forall_mem_singleton.2 (isWord_of_all (by decide +kernel))
    rw [himports]
    refine List.forall_mem_cons.2
      ⟨isPlain_runtimeImports hworld _ _ List.mem_cons_self, fun i hi => ?_⟩
    obtain ⟨c, hc, rfl⟩ := mem_componentImports.1 hi
    obtain ⟨t, ht, hname⟩ := List.mem_flatMap.1
      ((hresolves.mem_used_iff c).1 (List.mem_eraseDups.1 hc))
    obtain ⟨used, hused, rfl⟩ := List.mem_map.1 hname
    exact ⟨(isWordChar_of_mem_templates hread ht).2 _ hused, by simp [Import.whole]⟩
  rw [← himports]
  exact bindings_factoryModule config.variant.runtimeModule (hresolves.isPlain hread) hplain

/-! ### Imports -/

/-- **The imports of the factory of a program,** given the names of the components that each
template uses, and the blueprints it creates entities from. -/
structure FactoryImports (config : Config) (p : Program) (output : Output)
    (used : List (List String)) (imports : List Import)
    (entries : List Blueprint) : Prop where
  /-- Every declaration of a template uses the components of its lineage. -/
  length_used : used.length = p.templates.length
  used_eq : ∀ i names, used[i]? = some names →
    ∃ lineage, Lineage p.templates i lineage ∧ names = ((flatten lineage).map (·.1)).eraseDups
  /-- The file starts with the imports, the world first, and creates an entity per template. -/
  source : output.factory.source
    = importBlock (Import.named "World" config.variant.runtimeModule :: imports)
      ++ "\n\n" ++ factoryObject entries ++ "\n\n" ++ exportStatement "Factory" ++ "\n"
  /-- These imports, and the factory itself, are the variables that the text of the file binds. -/
  binds : ∀ source, readProgram source = .ok p → bindings output.factory.source
    = (Import.named "World" config.variant.runtimeModule :: imports).map Import.binding
      ++ [("Factory", objectHead entries)]
  entries_template : entries.map Blueprint.template = p.templates.map fun t => t.name.val
  entries_used : entries.map (fun e => e.components.keys) = used
  /-- One variable for every component that is used, and no other. -/
  nodup : (imports.map Import.name).Nodup
  mem_iff : ∀ c, c ∈ imports.map Import.name ↔ ∃ names ∈ used, c ∈ names
  whole : ∀ i ∈ imports, i = Import.whole i.name (importPath i.name)
  /-- Paths are in order, and names with the same path in the order of their first use. -/
  ordered : imports.Pairwise fun a b => PathOrder a.path b.path
  stable : ∀ path, (imports.filter fun i => i.path = path).map Import.name
    = used.flatten.eraseDups.filter fun c => importPath c = path
  /-- What is created is imported. -/
  created : ∀ e ∈ entries, ∀ c ∈ e.components.pairs, c.1 ∈ imports.map Import.name
  /-- A component that is declared is imported from its own file. -/
  declared : output.components.map Artifact.name = p.components.map fun c => c.name.val
  artifact_path : ∀ i ∈ imports, ∀ a ∈ output.components, a.name = i.name →
    i.path = "./" ++ a.outputPath

/-- **The factory imports what it creates,** and nothing else. In a program that compiles, the
factory binds the world and then one variable for every component name that some declaration of a
template uses, inherited ones included, whether or not a later declaration takes the name of the
template. The variables stand in the order of their paths, and those with the same path in the order
in which the templates first use them. Every component that a function creates is among them, and
one that is declared is imported from the path of its own artifact. -/
theorem compile_closes_imports {config : Config} {p : Program} {output : Output}
    (h : (compile config p).outcome = .ok output) :
    ∃ used imports entries, FactoryImports config p output used imports entries := by
  obtain ⟨catalog, hcomponents, htemplates, -, hfactory, -⟩ := outcome_compile_eq_ok_iff.1 h
  have hresolves : catalog.Resolves p.templates :=
    resolves_of_buildTemplates Catalog.resolves_empty htemplates
  have hempty : HoldsFiles Catalog.empty.files Catalog.empty.used.flatten := rfl
  have hfiles := holdsFiles_of_buildTemplates hempty htemplates
  obtain ⟨hartifacts, -⟩ := buildComponents_repeats claims_empty hcomponents
  obtain ⟨hnames, -⟩ := buildTemplates_repeats Catalog.knows_empty htemplates
  have hperm := perm_componentImports catalog.used.flatten.eraseDups
  have hmem : ∀ c, c ∈ (componentImports catalog.used.flatten.eraseDups).map Import.name ↔
      ∃ names ∈ catalog.used, c ∈ names := by
    intro c
    rw [hperm.mem_iff, List.mem_eraseDups, List.mem_flatten]
  have hwhole : ∀ i ∈ componentImports catalog.used.flatten.eraseDups,
      i = Import.whole i.name (importPath i.name) := by
    intro i hi
    obtain ⟨c, -, rfl⟩ := mem_componentImports.1 hi
    rfl
  refine ⟨catalog.used, componentImports catalog.used.flatten.eraseDups, catalog.entries,
    { length_used := ?_, used_eq := ?_, source := ?_, binds := ?_,
      entries_template := hnames, entries_used := rfl,
      nodup := hperm.nodup_iff.2 (nodup_eraseDups _), mem_iff := hmem, whole := hwhole,
      ordered := pairwise_componentImports _, stable := filter_componentImports _,
      created := ?_, declared := ?_, artifact_path := ?_ }⟩
  · rw [Catalog.used, List.length_map, hresolves.length]
  · intro i names hi
    rw [Catalog.used, List.getElem?_map, Option.map_eq_some_iff] at hi
    obtain ⟨e, he, rfl⟩ := hi
    have hlt : i < p.templates.length := by
      rw [← hresolves.length]
      exact (List.getElem?_eq_some_iff.1 he).1
    obtain ⟨lineage, resolved, hlineage, hentry, hlast⟩ :=
      hresolves.entries i _ (List.getElem?_eq_getElem hlt)
    rw [he] at hentry
    cases hentry
    exact ⟨lineage, hlineage, hlast.keys⟩
  · rw [hfactory, factoryArtifact, factoryModule, hfiles.factoryImports]
  · intro source hread
    rw [hfactory]
    exact bindings_factoryArtifact hread htemplates
  · intro e he c hc
    refine (hmem c.1).2 ⟨e.components.keys, List.mem_map_of_mem he, ?_⟩
    exact List.mem_map_of_mem hc
  · rw [hartifacts, List.map_map]
    rfl
  · intro i hi a ha hname
    rw [hartifacts] at ha
    obtain ⟨component, -, rfl⟩ := List.mem_map.1 ha
    rw [hwhole i hi, ← hname]
    simp [Import.whole, importPath, Artifact.outputPath, componentArtifact,
      ← String.toList_inj]

/-- A source text with a template that uses two components with one file, one of them declared. -/
def bearsSource : String :=
  "project Bears\ncomponent Body \x7b\x7d\n"
    ++ "template Bear \x7b Mind \x7b\x7d BodySystem \x7b\x7d Body \x7b\x7d \x7d\n"

/-- The template in this text. -/
def bear : Template where
  name := ⟨"Bear", ⟨41, 45⟩⟩
  parent := none
  instances := [⟨⟨"Mind", ⟨48, 52⟩⟩, []⟩, ⟨⟨"BodySystem", ⟨56, 66⟩⟩, []⟩, ⟨⟨"Body", ⟨70, 74⟩⟩, []⟩]

theorem compile_closes_imports_bears : ∃ p output used imports entries,
    readProgram bearsSource = .ok p ∧ (compile {} p).outcome = .ok output ∧
    FactoryImports {} p output used imports entries ∧
    used = [["Mind", "BodySystem", "Body"]] ∧
    (imports.filter fun i => i.path = "./components/body.js").map Import.name
      = ["BodySystem", "Body"] ∧
    (bindings output.factory.source).map Prod.fst
      = "World" :: imports.map Import.name ++ ["Factory"] := by
  obtain ⟨output, houtput⟩ : ∃ output, (compileSource {} bearsSource).outcome = .ok output :=
    Run.exists_ok (by decide +kernel)
  obtain ⟨p, hread, h⟩ := outcome_compileSource_eq_ok_iff.1 houtput
  have htemplates : p.templates = [bear] := by
    have hmap : (readProgram bearsSource).toOption.map Program.templates = some [bear] := by
      decide +kernel
    rw [hread] at hmap
    exact Option.some.inj hmap
  obtain ⟨used, imports, entries, himports⟩ := compile_closes_imports h
  have hlength := himports.length_used
  rw [htemplates] at hlength
  obtain ⟨names, rfl⟩ := List.length_eq_one_iff.1 hlength
  obtain ⟨lineage, hother, rfl⟩ := himports.used_eq 0 names rfl
  have hlineage : Lineage p.templates 0 [bear] := by
    rw [htemplates]
    exact .root rfl rfl
  obtain rfl := hother.unique hlineage
  have hnames : ((flatten [bear]).map (·.1)).eraseDups = ["Mind", "BodySystem", "Body"] := by
    decide +kernel
  refine ⟨p, output, _, imports, entries, hread, h, himports, by rw [hnames], ?_, ?_⟩
  · rw [himports.stable, hnames]
    decide +kernel
  · rw [himports.binds bearsSource hread, List.map_append, List.map_map]
    rfl

end EntityForge
