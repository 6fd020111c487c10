import EntityForge.Build.Compile

/-! # What a compilation is made of

A compilation is put together from a few kinds of steps: values, two kinds of errors, warnings,
rejected systems, and one run after another. A relation between runs that is kept by these steps
holds between whole compilations of a program, under two settings that agree on the variant. With
the same settings twice it says something about one compilation.

* `Run.outcome_bind_eq_ok_iff`, `Run.events_bind_of_ok`: one run after another.
* `outcome_compile_eq_ok_iff`, `reports_compile`: a compilation that succeeds, phase by phase.
* `compileSource_cases`: a source text that is read first.
* `Catalog.Knows`: the templates that have been declared.
* `StepRelation`: a relation that the steps keep, those of systems apart.
* `StepRelation.buildComponents`, `StepRelation.buildTemplates`: so do components and templates.
* `StepRelation.buildProgram`: if rejections keep it as well, so does a compilation. -/

namespace EntityForge

/-! ### One run after another -/

theorem eq_ok_of_toOption {ε α : Type} {r : Except ε α} {a : α}
    (h : r.toOption = some a) : r = .ok a := by
  rcases r with e | b
  · cases h
  · exact congrArg Except.ok (Option.some.inj h)

namespace Run

variable {α β : Type} {r : Run α} {f : α → Run β}

theorem outcome_bind_eq_ok_iff {b : β} :
    (r >>= f).outcome = .ok b ↔ ∃ a, r.outcome = .ok a ∧ (f a).outcome = .ok b := by
  rcases r with ⟨events, warnings, e | a⟩
  · rw [bind_error]
    exact ⟨nofun, fun ⟨_, h, _⟩ => nomatch h⟩
  · rw [bind_ok]
    constructor
    · exact fun h => ⟨a, rfl, h⟩
    · rintro ⟨_, ⟨⟩, h⟩
      exact h

theorem exists_ok (h : r.outcome.toOption.isSome = true) : ∃ a, r.outcome = .ok a :=
  (Option.isSome_iff_exists.1 h).imp fun _ => eq_ok_of_toOption

theorem exists_ok_of_map_eq {g : α → β} {b : β} (h : r.outcome.toOption.map g = some b) :
    ∃ a, r.outcome = .ok a ∧ g a = b := by
  obtain ⟨a, ha, hb⟩ := Option.map_eq_some_iff.1 h
  exact ⟨a, eq_ok_of_toOption ha, hb⟩

theorem events_bind_of_ok {a : α} (h : r.outcome = .ok a) :
    (r >>= f).events = r.events ++ (f a).events := by
  rcases r with ⟨events, warnings, outcome⟩
  cases h
  rfl

theorem warnings_bind_of_ok {a : α} (h : r.outcome = .ok a) :
    (r >>= f).warnings = r.warnings ++ (f a).warnings := by
  rcases r with ⟨events, warnings, outcome⟩
  cases h
  rfl

end Run

theorem outcome_warn_of_lenient {config : Config} (hlenient : config.lenient = true)
    (w : Warning) : (warn config w).outcome = .ok () := by
  simp [warn, Config.stopsOnWarning, hlenient]

theorem warn_of_ok {config : Config} {w : Warning} (h : (warn config w).outcome = .ok ()) :
    warn config w = ⟨[.warning w.message], [w], .ok ()⟩ := by
  unfold warn at h ⊢
  split at h
  · cases h
  · next hgo => rw [if_neg hgo]

theorem warnings_warn_of_ok {config : Config} {w : Warning}
    (h : (warn config w).outcome = .ok ()) : (warn config w).warnings = [w] := by
  rw [warn_of_ok h]

theorem outcome_buildProgram_eq_ok_iff {config : Config} {p : Program} {components : List Artifact}
    {catalog : Catalog} {systems : List Artifact} {rejected : List String} :
    (buildProgram config p).outcome = .ok (components, catalog, systems, rejected) ↔
      (buildComponents config .empty p.components).outcome = .ok components ∧
      (buildTemplates config .empty p.templates).outcome = .ok catalog ∧
      (buildSystems config catalog.known .empty p.systems).outcome = .ok (systems, rejected) := by
  unfold buildProgram
  simp only [Run.outcome_bind_eq_ok_iff]
  constructor
  · rintro ⟨_, hcomponents, _, htemplates, _, hsystems, ⟨⟩⟩
    exact ⟨hcomponents, htemplates, hsystems⟩
  · rintro ⟨hcomponents, htemplates, hsystems⟩
    exact ⟨_, hcomponents, _, htemplates, _, hsystems, rfl⟩

/-- **A compilation that succeeds:** its phases do, and the output holds what they give. -/
theorem outcome_compile_eq_ok_iff {config : Config} {p : Program} {output : Output} :
    (compile config p).outcome = .ok output ↔ ∃ catalog,
      (buildComponents config .empty p.components).outcome = .ok output.components ∧
      (buildTemplates config .empty p.templates).outcome = .ok catalog ∧
      (buildSystems config catalog.known .empty p.systems).outcome
        = .ok (output.systems, output.rejected) ∧
      output.factory = factoryArtifact config catalog ∧ output.projectName = p.name.val ∧
      output.warnings = (compile config p).warnings := by
  constructor
  · intro h
    rcases hrun : (buildProgram config p).outcome with e | ⟨components, catalog, systems, rejected⟩
    · simp only [compile, hrun, Except.map] at h
      cases h
    · simp only [compile, hrun, Except.map] at h
      cases h
      obtain ⟨hcomponents, htemplates, hsystems⟩ := outcome_buildProgram_eq_ok_iff.1 hrun
      exact ⟨catalog, hcomponents, htemplates, hsystems, rfl, rfl, rfl⟩
  · rintro ⟨catalog, hcomponents, htemplates, hsystems, hfactory, hname, hwarnings⟩
    have hrun := outcome_buildProgram_eq_ok_iff.2 ⟨hcomponents, htemplates, hsystems⟩
    simp only [compile, hrun, Except.map]
    rcases output with ⟨⟩
    simp only at hfactory hname hwarnings
    rw [hfactory, hname, hwarnings]
    rfl

/-- **What a compilation reports** is what its phases report, one after the other. -/
theorem reports_compile {config : Config} {p : Program} {components : List Artifact}
    {catalog : Catalog} {systems : List Artifact × List String}
    (hcomponents : (buildComponents config .empty p.components).outcome = .ok components)
    (htemplates : (buildTemplates config .empty p.templates).outcome = .ok catalog)
    (hsystems : (buildSystems config catalog.known .empty p.systems).outcome = .ok systems) :
    (compile config p).events = (buildComponents config .empty p.components).events
      ++ (buildTemplates config .empty p.templates).events
      ++ (buildSystems config catalog.known .empty p.systems).events ∧
    (compile config p).warnings = (buildComponents config .empty p.components).warnings
      ++ (buildTemplates config .empty p.templates).warnings
      ++ (buildSystems config catalog.known .empty p.systems).warnings := by
  constructor
  · change (buildProgram config p).events = _
    rw [buildProgram, Run.events_bind_of_ok hcomponents, Run.events_bind_of_ok htemplates,
      Run.events_bind_of_ok hsystems, List.append_assoc]
    simp
  · change (buildProgram config p).warnings = _
    rw [buildProgram, Run.warnings_bind_of_ok hcomponents, Run.warnings_bind_of_ok htemplates,
      Run.warnings_bind_of_ok hsystems, List.append_assoc]
    simp

/-- **How a source text compiles:** it cannot be read, its program does not compile, or it does. -/
theorem compileSource_cases (config : Config) (source : String) :
    (∃ e, readProgram source = .error e ∧
      compileSource config source = ⟨[.malformed e], [], .error (.malformed e)⟩) ∨
    (∃ p e, readProgram source = .ok p ∧ (compile config p).outcome = .error e ∧
      (compileSource config source).outcome = .error e ∧
      (compileSource config source).events = (compile config p).events ++ [.ofFailure e]) ∨
    ∃ p output, readProgram source = .ok p ∧ (compile config p).outcome = .ok output ∧
      compileSource config source = compile config p := by
  unfold compileSource
  rcases readProgram source with e | p
  · exact .inl ⟨e, rfl, rfl⟩
  · rcases hcompile : (compile config p).outcome with e | output
    · exact .inr (.inl ⟨p, e, rfl, hcompile, by simp [Run.withFailure, hcompile]⟩)
    · exact .inr (.inr ⟨p, output, rfl, hcompile, by simp [Run.withFailure, hcompile]⟩)

theorem outcome_compileSource_eq_ok_iff {config : Config} {source : String} {output : Output} :
    (compileSource config source).outcome = .ok output ↔
      ∃ p, readProgram source = .ok p ∧ (compile config p).outcome = .ok output := by
  rcases compileSource_cases config source with ⟨e, hread, h⟩ | ⟨p, e, hread, hcompile, h, -⟩ |
    ⟨p, other, hread, -, h⟩
  · simp [h, hread]
  · simp [h, hread, hcompile]
  · simp [h, hread]

/-! ### Templates that are known -/

/-- **A catalog that knows the names** of some templates, and no others. -/
def Catalog.Knows (catalog : Catalog) (ts : List Template) : Prop :=
  ∀ name, (catalog.known.find? name).isSome ↔ name ∈ ts.map fun t => t.name.val

theorem Catalog.knows_empty : Catalog.empty.Knows [] := by
  intro name
  simp [Catalog.empty]

theorem Catalog.Knows.add {catalog : Catalog} {ts : List Template} (h : catalog.Knows ts)
    (t : Template) (resolved : Resolved) :
    (catalog.add t.name.val resolved).Knows (ts ++ [t]) := by
  intro name
  rw [List.map_append, List.mem_append, ← h name, List.map_singleton, List.mem_singleton]
  by_cases hname : name = t.name.val
  · subst hname
    simp [Catalog.add]
  · have hfind : (catalog.add t.name.val resolved).known.find? name = catalog.known.find? name :=
      Table.find?_insert_of_ne _ hname _
    rw [hfind]
    simp [hname]

/-! ### Relations that are kept -/

/-- **A relation between runs that is kept step by step,** with the settings `c` on the one side and
`d` on the other. -/
structure StepRelation (c d : Config) (R : (α : Type) → Run α → Run α → Prop) : Prop where
  value : ∀ {α : Type} (a : α), R α (pure a) (pure a)
  undeclaredParent : ∀ {α : Type} (template parent : String),
    R α (Run.fail (.undeclaredParent template parent))
      (Run.fail (.undeclaredParent template parent))
  unknownBase : ∀ {α : Type} (system base : String),
    R α (Run.fail (.unknownBase system base)) (Run.fail (.unknownBase system base))
  warning : ∀ w, R Unit (warn c w) (warn d w)
  bind : ∀ {α β : Type} {r s : Run α} {f g : α → Run β}, R α r s → (∀ a, R β (f a) (g a)) →
    R β (r >>= f) (s >>= g)

section Variant
variable {c d : Config} (hvariant : c.variant = d.variant)
include hvariant

/-! ### Only the variant shapes a file -/

theorem componentArtifact_congr : componentArtifact c = componentArtifact d := by
  funext component
  unfold componentArtifact
  rw [hvariant]

theorem systemArtifact_congr : systemArtifact c = systemArtifact d := by
  funext s base required
  unfold systemArtifact
  rw [hvariant]

end Variant

namespace StepRelation

variable {c d : Config} {R : (α : Type) → Run α → Run α → Prop} (h : StepRelation c d R)
include h

/-! ### Components and templates -/

theorem claim (label name file : String) (claims : Table String String) :
    R _ (claim c label name file claims) (EntityForge.claim d label name file claims) := by
  unfold EntityForge.claim
  split
  · exact h.bind (h.warning _) fun _ => h.value _
  · exact h.value _

theorem buildComponents (hvariant : c.variant = d.variant) (cs : List Component) :
    ∀ claims, R _ (buildComponents c claims cs) (EntityForge.buildComponents d claims cs) := by
  induction cs with
  | nil =>
    intro claims
    exact h.value _
  | cons component cs ih =>
    intro claims
    rw [EntityForge.buildComponents, EntityForge.buildComponents, componentArtifact_congr hvariant]
    exact h.bind (h.claim _ _ _ _) fun claims => h.bind (ih claims) fun _ => h.value _

theorem buildTemplate (catalog : Catalog) (t : Template) :
    R _ (buildTemplate c catalog t) (EntityForge.buildTemplate d catalog t) := by
  unfold EntityForge.buildTemplate
  rcases hresolve : resolve catalog.known t with e | resolved
  · -- The only error of a template is about its parent.
    unfold resolve at hresolve
    split at hresolve
    · cases hresolve
    · split at hresolve
      · cases hresolve
      · cases hresolve
        exact h.undeclaredParent _ _
  · dsimp only
    split
    · exact h.bind (h.warning _) fun _ => h.value _
    · exact h.value _

theorem buildTemplates (ts : List Template) :
    ∀ catalog, R _ (buildTemplates c catalog ts) (EntityForge.buildTemplates d catalog ts) := by
  induction ts with
  | nil =>
    intro catalog
    exact h.value _
  | cons t ts ih =>
    intro catalog
    rw [EntityForge.buildTemplates, EntityForge.buildTemplates]
    exact h.bind (h.buildTemplate catalog t) ih

/-! ### Systems -/

variable (hvariant : c.variant = d.variant)
include hvariant

theorem baseOf (s : System) : R _ (baseOf c s) (EntityForge.baseOf d s) := by
  unfold EntityForge.baseOf
  rw [hvariant]
  split
  · exact h.bind (h.warning _) fun _ => h.value _
  · exact h.value _
  · exact h.value _
  · split
    · exact h.value _
    · exact h.unknownBase _ _

variable (hrejected : ∀ e, R _ (Run.emit (.rejected e)) (Run.emit (.rejected e)))
include hrejected

theorem buildSystems (known : Table String Resolved) (ss : List System) : ∀ claims,
    R _ (buildSystems c known claims ss) (EntityForge.buildSystems d known claims ss) := by
  induction ss with
  | nil =>
    intro claims
    exact h.value _
  | cons s ss ih =>
    intro claims
    rw [EntityForge.buildSystems, EntityForge.buildSystems, systemArtifact_congr hvariant]
    refine h.bind (h.baseOf hvariant s) fun base => ?_
    dsimp only
    split
    · exact h.bind (hrejected _) fun _ => h.bind (ih claims) fun _ => h.value _
    · exact h.bind (h.claim _ _ _ _) fun claims => h.bind (ih claims) fun _ => h.value _

/-- **A relation that every step keeps** holds between compilations. -/
theorem buildProgram (p : Program) : R _ (buildProgram c p) (EntityForge.buildProgram d p) := by
  unfold EntityForge.buildProgram
  refine h.bind (h.buildComponents hvariant _ _) fun components => ?_
  refine h.bind (h.buildTemplates _ _) fun catalog => ?_
  exact h.bind (h.buildSystems hvariant hrejected _ _ _) fun _ => h.value _

end StepRelation

end EntityForge
