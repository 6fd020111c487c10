import EntityForge.Proofs.Build.Steps
import EntityForge.Proofs.Table.LastWins

/-! # Lineages of templates

A template stands for the component instances of all its ancestors and its own. Its parent is the
last declaration with the parent's name before it, which may carry the template's own name; going
up from parent to parent gives its lineage. Resolving templates one after the other, with a table of
the latest ones, comes to the same.

* `LastBefore`, `Lineage`: the parent of a declaration and all its ancestors, said of the list of
  declarations alone.
* `Catalog.Resolves`: a catalog that holds what the lineages of a list of templates stand for.
* `Catalog.Resolves.add`, `resolves_of_buildTemplates`: one template, and all templates.
* `buildTemplates_follows_lineages`: resolved templates are their lineages, flattened. -/

namespace EntityForge

/-! ### Ancestors -/

/-- The name of the declaration at a position. -/
def nameAt (ts : List Template) (i : ℕ) : Option String :=
  ts[i]?.map fun t => t.name.val

/-- **The last declaration of a name before a position.** -/
structure LastBefore (ts : List Template) (i : ℕ) (name : String) (j : ℕ) : Prop where
  before : j < i
  named : nameAt ts j = some name
  last : ∀ k, j < k → k < i → nameAt ts k ≠ some name

/-- **The lineage of a declaration:** its ancestors from the one without a parent downwards, and the
declaration itself. -/
inductive Lineage (ts : List Template) : ℕ → List Template → Prop
  | root {i : ℕ} {t : Template} (ht : ts[i]? = some t) (hparent : t.parent = none) :
      Lineage ts i [t]
  | child {i j : ℕ} {t : Template} {parent : Name} {above : List Template} (ht : ts[i]? = some t)
      (hparent : t.parent = some parent) (hj : LastBefore ts i parent.val j)
      (habove : Lineage ts j above) : Lineage ts i (above ++ [t])

theorem LastBefore.unique {ts : List Template} {i j k : ℕ} {name : String}
    (hj : LastBefore ts i name j) (hk : LastBefore ts i name k) : j = k := by
  rcases Nat.lt_trichotomy j k with h | h | h
  · exact absurd hk.named (hj.last k h hk.before)
  · exact h
  · exact absurd hj.named (hk.last j h hj.before)

theorem Lineage.unique {ts : List Template} {i : ℕ} {a b : List Template} (ha : Lineage ts i a)
    (hb : Lineage ts i b) : a = b := by
  induction ha generalizing b with
  | root ht hparent =>
    cases hb with
    | root ht' =>
      rw [Option.some.inj (ht.symm.trans ht')]
    | child ht' hparent' =>
      rw [Option.some.inj (ht.symm.trans ht'), hparent'] at hparent
      cases hparent
  | child ht hparent hj _ ih =>
    cases hb with
    | root ht' hparent' =>
      rw [Option.some.inj (ht.symm.trans ht'), hparent'] at hparent
      cases hparent
    | child ht' hparent' hj' habove' =>
      obtain rfl := Option.some.inj (ht.symm.trans ht')
      rw [hparent] at hparent'
      cases hparent'
      obtain rfl := hj.unique hj'
      rw [ih habove']

theorem Lineage.subset {ts : List Template} {i : ℕ} {lineage : List Template}
    (h : Lineage ts i lineage) : lineage ⊆ ts := by
  induction h with
  | root ht => simpa using List.mem_of_getElem? ht
  | child ht _ _ _ ih => simpa [ih] using List.mem_of_getElem? ht

theorem Lineage.mem_self {ts : List Template} {i : ℕ} {lineage : List Template}
    (h : Lineage ts i lineage) {t : Template} (ht : ts[i]? = some t) : t ∈ lineage := by
  cases h with
  | root ht' => simpa using Option.some.inj (ht.symm.trans ht')
  | child ht' => simpa using .inr (Option.some.inj (ht.symm.trans ht'))

theorem nameAt_append_of_lt {ts : List Template} {i : ℕ} (h : i < ts.length)
    (more : List Template) : nameAt (ts ++ more) i = nameAt ts i := by
  unfold nameAt
  rw [List.getElem?_append_left h]

theorem nameAt_length_append (ts : List Template) (t : Template) :
    nameAt (ts ++ [t]) ts.length = some t.name.val := by
  simp [nameAt]

theorem LastBefore.append_iff {ts : List Template} {i j : ℕ} {name : String} (hi : i ≤ ts.length)
    (more : List Template) : LastBefore (ts ++ more) i name j ↔ LastBefore ts i name j := by
  constructor
  · rintro ⟨hbefore, hnamed, hlast⟩
    refine ⟨hbefore, ?_, fun k hjk hki => ?_⟩
    · rwa [nameAt_append_of_lt (by omega)] at hnamed
    · have h := hlast k hjk hki
      rwa [nameAt_append_of_lt (by omega)] at h
  · rintro ⟨hbefore, hnamed, hlast⟩
    refine ⟨hbefore, ?_, fun k hjk hki => ?_⟩
    · rwa [nameAt_append_of_lt (by omega)]
    · rw [nameAt_append_of_lt (by omega)]
      exact hlast k hjk hki

theorem Lineage.append {ts : List Template} {i : ℕ} {lineage : List Template}
    (h : Lineage ts i lineage) (more : List Template) : Lineage (ts ++ more) i lineage := by
  have hleft : ∀ {i t}, ts[i]? = some t → (ts ++ more)[i]? = some t := fun ht => by
    rw [List.getElem?_append_left (List.getElem?_eq_some_iff.1 ht).1, ht]
  induction h with
  | root ht hparent => exact .root (hleft ht) hparent
  | child ht hparent hj _ ih =>
    have hi := (List.getElem?_eq_some_iff.1 ht).1
    exact .child (hleft ht) hparent ((LastBefore.append_iff (Nat.le_of_lt hi) more).2 hj) ih

theorem lastBefore_snoc_iff {ts : List Template} {t : Template} {name : String} {j : ℕ} :
    LastBefore (ts ++ [t]) (ts.length + 1) name j ↔
      if t.name.val = name then j = ts.length else LastBefore ts ts.length name j := by
  have hlast := nameAt_length_append ts t
  split_ifs with hname
  · constructor
    · intro h
      by_contra hne
      have hlt : j < ts.length := by have := h.before; omega
      exact h.last ts.length hlt (Nat.lt_succ_self _) (by rw [hlast, hname])
    · rintro rfl
      exact ⟨Nat.lt_succ_self _, by rw [hlast, hname], fun k h1 h2 => by omega⟩
  · constructor
    · intro h
      have hne : j ≠ ts.length := by
        rintro rfl
        exact hname (Option.some.inj (hlast.symm.trans h.named))
      have hlt : j < ts.length := by have := h.before; omega
      have hshort : LastBefore (ts ++ [t]) ts.length name j :=
        ⟨hlt, h.named, fun k hjk hk => h.last k hjk (by omega)⟩
      exact (LastBefore.append_iff (Nat.le_refl _) [t]).1 hshort
    · intro h
      obtain ⟨hbefore, hnamed, hbetween⟩ := (LastBefore.append_iff (Nat.le_refl _) [t]).2 h
      refine ⟨by omega, hnamed, fun k hjk hk => ?_⟩
      rcases Nat.lt_succ_iff_lt_or_eq.1 hk with hk | rfl
      · exact hbetween k hjk hk
      · rw [hlast]
        exact fun heq => hname (Option.some.inj heq)

theorem exists_lastBefore_iff {ts : List Template} {name : String} :
    (∃ j, LastBefore ts ts.length name j) ↔ name ∈ ts.map fun t => t.name.val := by
  constructor
  · rintro ⟨j, hj⟩
    obtain ⟨t, ht, hname⟩ := Option.map_eq_some_iff.1 hj.named
    exact List.mem_map.2 ⟨t, List.mem_of_getElem? ht, hname⟩
  · intro hmem
    induction ts using List.reverseRecOn with
    | nil => cases hmem
    | append_singleton ts t ih =>
      rw [List.length_append, List.length_singleton]
      simp only [lastBefore_snoc_iff]
      split_ifs with hname
      · exact ⟨ts.length, rfl⟩
      · rw [List.map_append, List.mem_append, List.map_singleton, List.mem_singleton] at hmem
        exact ih (hmem.resolve_right fun heq => hname heq.symm)

/-! ### Catalogs -/

/-- The component instances of a template, as names with properties. -/
def Template.pairs (t : Template) : List (String × List Property) :=
  t.instances.map fun c => (c.name.val, c.properties)

/-- **The component instances of a lineage,** one template after the other. -/
def flatten (lineage : List Template) : List (String × List Property) :=
  lineage.flatMap Template.pairs

theorem mem_flatten {lineage : List Template} {p : String × List Property} :
    p ∈ flatten lineage ↔ ∃ t ∈ lineage, ∃ c ∈ t.instances, (c.name.val, c.properties) = p := by
  simp [flatten, Template.pairs]

theorem flatten_concat (above : List Template) (t : Template) :
    flatten (above ++ [t]) = flatten above ++ t.pairs := by
  simp [flatten]

theorem Table.LastWins.addInstances {base : Resolved} {pairs : List (String × List Property)}
    (h : base.LastWins pairs) (cs : List Component) :
    (addInstances base cs).LastWins (pairs ++ cs.map fun c => (c.name.val, c.properties)) := by
  induction cs generalizing base pairs with
  | nil =>
    rw [List.map_nil, List.append_nil]
    exact h
  | cons c cs ih =>
    have hnext := ih (h.insert c.name.val c.properties)
    rw [List.append_assoc] at hnext
    exact hnext

/-- **A catalog that holds what templates stand for:** for each declaration its lineage, flattened,
and under each name what the last declaration of it stands for. -/
structure Catalog.Resolves (catalog : Catalog) (ts : List Template) : Prop where
  length : catalog.entries.length = ts.length
  entries : ∀ i t, ts[i]? = some t → ∃ lineage resolved, Lineage ts i lineage ∧
    catalog.entries[i]? = some ⟨t.name.val, resolved⟩ ∧ resolved.LastWins (flatten lineage)
  known : ∀ name resolved, catalog.known.find? name = some resolved ↔
    ∃ j, LastBefore ts ts.length name j ∧ catalog.entries[j]? = some ⟨name, resolved⟩

theorem Catalog.resolves_empty : Catalog.empty.Resolves [] where
  length := rfl
  entries i t h := by cases h
  known name resolved := by
    refine ⟨nofun, ?_⟩
    rintro ⟨j, hj, -⟩
    exact absurd hj.before (Nat.not_lt_zero j)

/-- **What a template is resolved to** flattens its lineage. -/
theorem Catalog.Resolves.exists_lineage {catalog : Catalog} {ts : List Template}
    (h : catalog.Resolves ts) {t : Template} {resolved : Resolved}
    (hresolve : resolve catalog.known t = .ok resolved) :
    ∃ lineage, Lineage (ts ++ [t]) ts.length lineage ∧ resolved.LastWins (flatten lineage) := by
  have ht : (ts ++ [t])[ts.length]? = some t := by simp
  unfold resolve at hresolve
  split at hresolve
  · next hparent =>
    cases hresolve
    refine ⟨[t], .root ht hparent, ?_⟩
    have hbase := Table.lastWins_empty.addInstances t.instances
    simpa [flatten, Template.pairs] using hbase
  · next parent hparent =>
    split at hresolve
    · next base hbase =>
      cases hresolve
      obtain ⟨j, hj, hentry⟩ := (h.known _ _).1 hbase
      obtain ⟨u, hu⟩ : ∃ u, ts[j]? = some u := ⟨_, List.getElem?_eq_getElem hj.before⟩
      obtain ⟨above, resolved, habove, hentry', hresolved⟩ := h.entries j u hu
      rw [hentry, Option.some.injEq, Script.Blueprint.mk.injEq] at hentry'
      obtain ⟨-, rfl⟩ := hentry'
      refine ⟨above ++ [t], .child ht hparent ((LastBefore.append_iff (Nat.le_refl _) [t]).2 hj)
        (habove.append [t]), ?_⟩
      rw [flatten_concat]
      exact hresolved.addInstances t.instances
    · cases hresolve

theorem Catalog.Resolves.exists_resolve {catalog : Catalog} {ts : List Template}
    (h : catalog.Resolves ts) {t : Template} {parent : Name} {j : ℕ}
    (hparent : t.parent = some parent) (hj : LastBefore ts ts.length parent.val j) :
    ∃ resolved, resolve catalog.known t = .ok resolved := by
  obtain ⟨u, hu, hname⟩ := Option.map_eq_some_iff.1 hj.named
  obtain ⟨-, base, -, hentry, -⟩ := h.entries j u hu
  have hbase : catalog.known.find? parent.val = some base :=
    (h.known _ _).2 ⟨j, hj, hname ▸ hentry⟩
  refine ⟨addInstances base t.instances, ?_⟩
  unfold resolve
  rw [hparent]
  dsimp only
  rw [hbase]

theorem Catalog.Resolves.add {catalog : Catalog} {ts : List Template} (h : catalog.Resolves ts)
    {t : Template} {resolved : Resolved} (hresolve : resolve catalog.known t = .ok resolved) :
    (catalog.add t.name.val resolved).Resolves (ts ++ [t]) where
  length := by simp [Catalog.add, h.length]
  entries i u hu := by
    rcases Nat.lt_or_ge i ts.length with hi | hi
    · rw [List.getElem?_append_left hi] at hu
      obtain ⟨lineage, earlier, hlineage, hentry, hearlier⟩ := h.entries i u hu
      refine ⟨lineage, earlier, hlineage.append [t], ?_, hearlier⟩
      rw [Catalog.add, List.getElem?_append_left (h.length ▸ hi), hentry]
    · obtain rfl : i = ts.length := by
        have := (List.getElem?_eq_some_iff.1 hu).1
        simp only [List.length_append, List.length_singleton] at this
        omega
      obtain rfl : t = u := by simpa using hu
      obtain ⟨lineage, hlineage, hresolved⟩ := h.exists_lineage hresolve
      refine ⟨lineage, resolved, hlineage, ?_, hresolved⟩
      rw [Catalog.add, ← h.length]
      simp
  known name other := by
    have hlast : (catalog.add t.name.val resolved).entries[ts.length]?
        = some ⟨t.name.val, resolved⟩ := by
      rw [Catalog.add, ← h.length]
      simp
    rw [List.length_append, List.length_singleton]
    simp only [lastBefore_snoc_iff]
    split_ifs with hname
    · subst hname
      simp only [exists_eq_left, hlast]
      simp [Catalog.add]
    · have hfind : (catalog.add t.name.val resolved).known.find? name = catalog.known.find? name :=
        Table.find?_insert_of_ne _ (Ne.symm hname) _
      rw [hfind, h.known]
      refine exists_congr fun j => and_congr_right fun hj => ?_
      rw [Catalog.add, List.getElem?_append_left (h.length ▸ hj.before)]

/-! ### All templates -/

theorem outcome_buildTemplate_eq_ok {config : Config} {catalog next : Catalog} {t : Template}
    (h : (buildTemplate config catalog t).outcome = .ok next) :
    ∃ resolved, resolve catalog.known t = .ok resolved ∧
      next = catalog.add t.name.val resolved := by
  unfold buildTemplate at h
  split at h
  · cases h
  · next resolved hresolve =>
    refine ⟨resolved, hresolve, ?_⟩
    dsimp only at h
    split at h
    · obtain ⟨_, -, hadd⟩ := Run.outcome_bind_eq_ok_iff.1 h
      cases hadd
      rfl
    · cases h
      rfl

theorem outcome_buildTemplate_of_lenient {config : Config} (hlenient : config.lenient = true)
    {catalog : Catalog} {t : Template} {resolved : Resolved}
    (h : resolve catalog.known t = .ok resolved) :
    (buildTemplate config catalog t).outcome = .ok (catalog.add t.name.val resolved) := by
  unfold buildTemplate
  rw [h]
  dsimp only
  split
  · exact Run.outcome_bind_eq_ok_iff.2 ⟨(), outcome_warn_of_lenient hlenient _, rfl⟩
  · rfl

theorem outcome_buildTemplates_append_iff {config : Config} {catalog last : Catalog}
    {ts more : List Template} :
    (buildTemplates config catalog (ts ++ more)).outcome = .ok last ↔
      ∃ mid, (buildTemplates config catalog ts).outcome = .ok mid ∧
        (buildTemplates config mid more).outcome = .ok last := by
  induction ts generalizing catalog with
  | nil =>
    rw [List.nil_append]
    constructor
    · exact fun h => ⟨catalog, rfl, h⟩
    · rintro ⟨_, ⟨⟩, h⟩
      exact h
  | cons t ts ih =>
    rw [List.cons_append, buildTemplates, buildTemplates]
    simp only [Run.outcome_bind_eq_ok_iff, ih]
    constructor
    · rintro ⟨next, hnext, mid, hmid, hlast⟩
      exact ⟨mid, ⟨next, hnext, hmid⟩, hlast⟩
    · rintro ⟨mid, ⟨next, hnext, hmid⟩, hlast⟩
      exact ⟨next, hnext, mid, hmid, hlast⟩

/-- **Templates one after the other** are resolved by their lineages. -/
theorem resolves_of_buildTemplates {config : Config} {more : List Template} :
    ∀ {catalog last : Catalog} {ts : List Template}, catalog.Resolves ts →
      (buildTemplates config catalog more).outcome = .ok last → last.Resolves (ts ++ more) := by
  induction more with
  | nil =>
    intro catalog last ts h hlast
    cases hlast
    rwa [List.append_nil]
  | cons t more ih =>
    intro catalog last ts h hlast
    rw [buildTemplates] at hlast
    obtain ⟨next, hnext, hrest⟩ := Run.outcome_bind_eq_ok_iff.1 hlast
    obtain ⟨resolved, hresolve, rfl⟩ := outcome_buildTemplate_eq_ok hnext
    rw [List.append_cons]
    exact ih (h.add hresolve) hrest

theorem entries_prefix_of_buildTemplates {config : Config} {ts : List Template} :
    ∀ {catalog last : Catalog}, (buildTemplates config catalog ts).outcome = .ok last →
      catalog.entries <+: last.entries := by
  induction ts with
  | nil =>
    intro catalog last h
    cases h
    exact List.prefix_rfl
  | cons t ts ih =>
    intro catalog last h
    rw [buildTemplates] at h
    obtain ⟨next, hnext, hrest⟩ := Run.outcome_bind_eq_ok_iff.1 h
    obtain ⟨resolved, -, rfl⟩ := outcome_buildTemplate_eq_ok hnext
    exact List.IsPrefix.trans (List.prefix_append _ _) (ih hrest)

/-- **Templates stand for their lineages.** When the templates of a program have been resolved, each
declaration has a lineage, and its entry holds the components of the lineage, flattened: every
component once, in the order of first occurrence, with all properties of its last occurrence and no
others. Declarations that come later change no entry. A template may extend any template before it,
one of its own name too. Under a name stands what the last declaration of that name stands for; this
is what systems are built with, and the entries are what the factory is made of. -/
theorem buildTemplates_follows_lineages {config : Config} {p : Program} {catalog : Catalog}
    (h : (buildTemplates config .empty p.templates).outcome = .ok catalog) :
    (catalog.entries.length = p.templates.length ∧
      ∀ i t, p.templates[i]? = some t → (∃ lineage, Lineage p.templates i lineage) ∧
        ∃ resolved, catalog.entries[i]? = some ⟨t.name.val, resolved⟩ ∧
          ∀ lineage, Lineage p.templates i lineage → resolved.LastWins (flatten lineage)) ∧
    (∀ before after, p.templates = before ++ after → ∃ earlier,
      (buildTemplates config .empty before).outcome = .ok earlier ∧
        earlier.entries = catalog.entries.take before.length) ∧
    (config.lenient = true → ∀ t parent j, t.parent = some parent →
      LastBefore p.templates p.templates.length parent.val j →
      ∃ larger, (buildTemplates config .empty (p.templates ++ [t])).outcome = .ok larger) ∧
    (∀ name resolved, catalog.known.find? name = some resolved ↔
      ∃ j, LastBefore p.templates p.templates.length name j ∧
        catalog.entries[j]? = some ⟨name, resolved⟩) ∧
    ∀ output, (compile config p).outcome = .ok output →
      output.factory = factoryArtifact config catalog ∧
        (buildSystems config catalog.known .empty p.systems).outcome
          = .ok (output.systems, output.rejected) := by
  have hresolves : catalog.Resolves p.templates := resolves_of_buildTemplates
    Catalog.resolves_empty h
  refine ⟨⟨hresolves.length, fun i t ht => ?_⟩, fun before after hsplit => ?_,
    fun hlenient t parent j hparent hj => ?_, hresolves.known, fun output houtput => ?_⟩
  · obtain ⟨lineage, resolved, hlineage, hentry, hresolved⟩ := hresolves.entries i t ht
    refine ⟨⟨lineage, hlineage⟩, resolved, hentry, fun other hother => ?_⟩
    rw [hother.unique hlineage]
    exact hresolved
  · rw [hsplit] at h
    obtain ⟨earlier, hearlier, hrest⟩ := outcome_buildTemplates_append_iff.1 h
    have hlength := (resolves_of_buildTemplates Catalog.resolves_empty hearlier).length
    rw [List.nil_append] at hlength
    refine ⟨earlier, hearlier, ?_⟩
    rw [← hlength]
    exact List.prefix_iff_eq_take.1 (entries_prefix_of_buildTemplates hrest)
  · obtain ⟨resolved, hresolve⟩ := hresolves.exists_resolve hparent hj
    have hnext := outcome_buildTemplate_of_lenient hlenient hresolve
    refine ⟨catalog.add t.name.val resolved,
      outcome_buildTemplates_append_iff.2 ⟨catalog, h, ?_⟩⟩
    rw [buildTemplates]
    exact Run.outcome_bind_eq_ok_iff.2 ⟨_, hnext, rfl⟩
  · obtain ⟨catalog', -, hcatalog', hsystems, hfactory, -⟩ := outcome_compile_eq_ok_iff.1 houtput
    rw [h] at hcatalog'
    cases hcatalog'
    exact ⟨hfactory, hsystems⟩

/-- A template without a parent. -/
def wolf : Template where
  name := ⟨"Wolf", ⟨0, 4⟩⟩
  parent := none
  instances := [⟨⟨"Body", ⟨5, 9⟩⟩, [("mass", .number "40"), ("legs", .number "4")]⟩,
    ⟨⟨"Mind", ⟨10, 14⟩⟩, []⟩]

/-- A template that extends an earlier one of its own name and gives a component twice. -/
def greyWolf : Template where
  name := ⟨"Wolf", ⟨20, 24⟩⟩
  parent := some ⟨"Wolf", ⟨25, 29⟩⟩
  instances := [⟨⟨"Coat", ⟨30, 34⟩⟩, []⟩, ⟨⟨"Body", ⟨35, 39⟩⟩, [("mass", .number "50")]⟩,
    ⟨⟨"Coat", ⟨40, 44⟩⟩, [("color", .string "grey")]⟩]

/-- A template that extends the later of two. -/
def cub : Template where
  name := ⟨"Cub", ⟨50, 53⟩⟩
  parent := some ⟨"Wolf", ⟨54, 58⟩⟩
  instances := [⟨⟨"Mind", ⟨60, 64⟩⟩, [("playful", .boolean true)]⟩]

/-- A program with these templates. -/
def wolves : Program where
  name := ⟨"Wolves", ⟨0, 6⟩⟩
  components := []
  templates := [wolf, greyWolf, cub]
  systems := []

theorem buildTemplates_follows_lineages_wolves : ∃ catalog output,
    (buildTemplates { lenient := true } .empty wolves.templates).outcome = .ok catalog ∧
    (Lineage wolves.templates 2 [wolf, greyWolf, cub] ∧
      ∃ resolved, catalog.entries[2]? = some ⟨"Cub", resolved⟩ ∧
        resolved.LastWins (flatten [wolf, greyWolf, cub])) ∧
    (∃ earlier, (buildTemplates { lenient := true } .empty [wolf]).outcome = .ok earlier ∧
      earlier.entries = catalog.entries.take 1) ∧
    (LastBefore wolves.templates 3 "Wolf" 1 ∧ ∃ larger, (buildTemplates { lenient := true } .empty
      (wolves.templates ++ [greyWolf])).outcome = .ok larger) ∧
    (∃ resolved, catalog.known.find? "Wolf" = some resolved ∧
      catalog.entries[1]? = some ⟨"Wolf", resolved⟩) ∧
    (compile { lenient := true } wolves).outcome = .ok output ∧
      output.factory = factoryArtifact { lenient := true } catalog := by
  obtain ⟨catalog, h⟩ : ∃ catalog,
      (buildTemplates { lenient := true } .empty wolves.templates).outcome = .ok catalog :=
    Run.exists_ok (by decide +kernel)
  obtain ⟨output, houtput⟩ : ∃ output, (compile { lenient := true } wolves).outcome = .ok output :=
    Run.exists_ok (by decide +kernel)
  have hfirst : LastBefore wolves.templates 1 "Wolf" 0 := ⟨by decide, rfl, by omega⟩
  have hsecond : LastBefore wolves.templates 2 "Wolf" 1 := ⟨by decide, rfl, by omega⟩
  have hlast : LastBefore wolves.templates 3 "Wolf" 1 := by
    refine ⟨by decide, rfl, fun k h1 h2 => ?_⟩
    obtain rfl : k = 2 := by omega
    decide
  have hlineage : Lineage wolves.templates 2 [wolf, greyWolf, cub] :=
    .child rfl rfl hsecond (.child rfl rfl hfirst (.root rfl rfl))
  obtain ⟨⟨-, hentries⟩, hearlier, hlarger, hknown, hcompile⟩ :=
    buildTemplates_follows_lineages (p := wolves) h
  obtain ⟨-, cubs, hcub, hcubs⟩ := hentries 2 cub rfl
  obtain ⟨-, wolf', hwolf, -⟩ := hentries 1 greyWolf rfl
  exact ⟨catalog, output, h, ⟨hlineage, cubs, hcub, hcubs _ hlineage⟩, hearlier [wolf] _ rfl,
    ⟨hlast, hlarger rfl greyWolf _ 1 rfl hlast⟩,
    ⟨wolf', (hknown _ _).2 ⟨1, hlast, hwolf⟩, hwolf⟩, houtput, (hcompile output houtput).1⟩

end EntityForge
