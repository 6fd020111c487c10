import EntityForge.Proofs.Build.Lineage

/-! # How a lenient compilation fails

A lenient compilation passes over its warnings. It fails for one of two reasons only: a template
extends one that has not been declared before it, or, where a system may choose its base class, a
system names a class that cannot be named. Templates come first, and of the templates or systems
that offend, the first one is blamed.

* `Offends`, `FirstOffender`: a list with an offending element, and the first of them.
* `Orphaned`, `Misbased`: the templates and the systems that offend.
* `outcome_buildTemplates_eq_error_iff`, `outcome_buildSystems_eq_error_iff`: how the phases fail.
* `compile_fails_at_first_offender`: how a compilation fails, and when it does not. -/

namespace EntityForge

/-! ### Offenders -/

section Offenders
variable {α : Type} (bad : List α → α → Prop)

/-- **Some element offends,** given the elements before it; `before` come before the list. -/
def Offends (before xs : List α) : Prop :=
  ∃ middle x after, xs = middle ++ x :: after ∧ bad (before ++ middle) x

/-- **The first element that offends.** -/
def FirstOffender (before xs : List α) (x : α) : Prop :=
  ∃ middle after, xs = middle ++ x :: after ∧ bad (before ++ middle) x ∧ ¬ Offends bad before middle

variable {bad} {before xs : List α} {x y : α}

theorem not_offends_nil : ¬ Offends bad before [] := by
  rintro ⟨_ | _, _, _, ⟨⟩, _⟩

theorem not_firstOffender_nil : ¬ FirstOffender bad before [] x := by
  rintro ⟨_ | _, _, ⟨⟩, _⟩

theorem offends_cons_iff :
    Offends bad before (x :: xs) ↔ bad before x ∨ Offends bad (before ++ [x]) xs := by
  constructor
  · rintro ⟨_ | ⟨_, middle⟩, z, after, ⟨⟩, hbad⟩
    · rw [List.append_nil] at hbad
      exact .inl hbad
    · rw [List.append_cons] at hbad
      exact .inr ⟨middle, z, after, rfl, hbad⟩
  · rintro (hbad | ⟨middle, z, after, rfl, hbad⟩)
    · exact ⟨[], x, xs, rfl, by rwa [List.append_nil]⟩
    · exact ⟨x :: middle, z, after, rfl, by rwa [List.append_cons]⟩

theorem firstOffender_cons_iff : FirstOffender bad before (x :: xs) y ↔
    bad before x ∧ y = x ∨ ¬ bad before x ∧ FirstOffender bad (before ++ [x]) xs y := by
  constructor
  · rintro ⟨_ | ⟨_, middle⟩, after, ⟨⟩, hbad, hfirst⟩
    · rw [List.append_nil] at hbad
      exact .inl ⟨hbad, rfl⟩
    · rw [offends_cons_iff, not_or] at hfirst
      rw [List.append_cons] at hbad
      exact .inr ⟨hfirst.1, middle, after, rfl, hbad, hfirst.2⟩
  · rintro (⟨hbad, rfl⟩ | ⟨hgood, middle, after, rfl, hbad, hfirst⟩)
    · exact ⟨[], xs, rfl, by rwa [List.append_nil], not_offends_nil⟩
    · refine ⟨x :: middle, after, rfl, by rwa [List.append_cons], ?_⟩
      rw [offends_cons_iff, not_or]
      exact ⟨hgood, hfirst⟩

theorem offends_iff_exists_first : Offends bad before xs ↔ ∃ y, FirstOffender bad before xs y := by
  induction xs generalizing before with
  | nil => exact ⟨fun h => absurd h not_offends_nil, fun ⟨_, h⟩ => absurd h not_firstOffender_nil⟩
  | cons x xs ih =>
    simp only [offends_cons_iff, firstOffender_cons_iff, ih]
    by_cases hbad : bad before x
    · simp [hbad]
    · simp [hbad]

theorem offends_iff_exists_blamed {β : Type} {part : α → Option β}
    (h : ∀ earlier z, bad earlier z → ∃ b, part z = some b) :
    Offends bad before xs ↔ ∃ z b, FirstOffender bad before xs z ∧ part z = some b := by
  rw [offends_iff_exists_first]
  refine exists_congr fun z => ⟨fun hfirst => ?_, fun ⟨_, hfirst, _⟩ => hfirst⟩
  obtain ⟨middle, -, -, hbad, -⟩ := id hfirst
  obtain ⟨b, hb⟩ := h _ z hbad
  exact ⟨b, hfirst, hb⟩

end Offenders

/-! ### Failures of runs -/

theorem Run.outcome_bind_eq_error_iff {α β : Type} {r : Run α} {f : α → Run β} {e : BuildError} :
    (r >>= f).outcome = .error e ↔
      r.outcome = .error e ∨ ∃ a, r.outcome = .ok a ∧ (f a).outcome = .error e := by
  rcases r with ⟨events, warnings, d | a⟩
  · simp [bind_error]
  · simp [bind_ok]

theorem Run.exists_ok_iff {α : Type} {r : Run α} :
    (∃ a, r.outcome = .ok a) ↔ ¬ ∃ e, r.outcome = .error e := by
  rcases r with ⟨events, warnings, e | a⟩
  · simp
  · simp

theorem outcome_compile_eq_error_iff {config : Config} {p : Program} {e : BuildError} :
    (compile config p).outcome = .error e ↔ (buildProgram config p).outcome = .error e := by
  rcases h : (buildProgram config p).outcome with d | result
  · simp [compile, h, Except.map]
  · simp [compile, h, Except.map]

/-! ### Templates and systems that offend -/

/-- **A template whose parent has not been declared** before it. -/
def Orphaned (before : List Template) (t : Template) : Prop :=
  ∃ parent, t.parent = some parent ∧ parent.val ∉ before.map fun u => u.name.val

theorem offends_orphaned_iff {ts : List Template} : Offends Orphaned [] ts ↔
    ∃ t parent, FirstOffender Orphaned [] ts t ∧ t.parent = some parent :=
  offends_iff_exists_blamed fun _ _ ⟨parent, h, _⟩ => ⟨parent, h⟩

theorem resolve_eq_error_iff {catalog : Catalog} {before : List Template}
    (h : catalog.Knows before) {t : Template} {e : BuildError} :
    resolve catalog.known t = .error e ↔ Orphaned before t ∧
      ∃ parent, t.parent = some parent ∧ e = .undeclaredParent t.name.val parent.val := by
  unfold resolve Orphaned
  rcases t.parent with _ | parent
  · simp
  · have hknown := h parent.val
    dsimp only
    rcases hfind : catalog.known.find? parent.val with _ | base
    · rw [hfind] at hknown
      simp only [Option.isSome_none, Bool.false_eq_true, false_iff] at hknown
      simp only [Except.error.injEq, Option.some.injEq, exists_eq_left', hknown, not_false_eq_true,
        true_and]
      exact eq_comm
    · rw [hfind, Option.isSome_some] at hknown
      simp only [reduceCtorEq, Option.some.injEq, exists_eq_left', hknown.1 rfl, not_true_eq_false,
        false_and]

/-- **A system whose parent names no class** that can be named. -/
def Misbased (_before : List System) (s : System) : Prop :=
  ∃ parent, s.parent = some parent ∧ parent.val ≠ "RenderSystem" ∧ parent.val ≠ "BehaviorSystem"

theorem offends_misbased_iff {ss : List System} : Offends Misbased [] ss ↔
    ∃ s parent, FirstOffender Misbased [] ss s ∧ s.parent = some parent :=
  offends_iff_exists_blamed fun _ _ ⟨parent, h, _⟩ => ⟨parent, h⟩

theorem ofParent?_eq_none_iff {name : String} :
    BaseClass.ofParent? name = none ↔ name ≠ "RenderSystem" ∧ name ≠ "BehaviorSystem" := by
  unfold BaseClass.ofParent?
  split_ifs with hrender hbehavior
  · simp [hrender]
  · simp [hbehavior]
  · simp [hrender, hbehavior]

/-! ### Lenient compilations -/

section Lenient
variable {config : Config} (hlenient : config.lenient = true)
include hlenient

theorem exists_claim_of_lenient (label name file : String) (claims : Table String String) :
    ∃ next, (claim config label name file claims).outcome = .ok next := by
  unfold claim
  split
  · exact ⟨claims, Run.outcome_bind_eq_ok_iff.2 ⟨(), outcome_warn_of_lenient hlenient _, rfl⟩⟩
  · exact ⟨_, rfl⟩

theorem exists_buildComponents_of_lenient (cs : List Component) (claims : Table String String) :
    ∃ artifacts, (buildComponents config claims cs).outcome = .ok artifacts := by
  induction cs generalizing claims with
  | nil => exact ⟨[], rfl⟩
  | cons c cs ih =>
    obtain ⟨next, hnext⟩ := exists_claim_of_lenient hlenient "Component" c.name.val
      (scriptFile c.name.val) claims
    obtain ⟨rest, hrest⟩ := ih next
    exact ⟨_, Run.outcome_bind_eq_ok_iff.2 ⟨next, hnext,
      Run.outcome_bind_eq_ok_iff.2 ⟨rest, hrest, rfl⟩⟩⟩

/-! ### Templates -/

/-- **Templates fail at the first one without a declared parent.** -/
theorem outcome_buildTemplates_eq_error_iff {ts : List Template} {e : BuildError} :
    ∀ {catalog : Catalog} {before : List Template}, catalog.Knows before →
      ((buildTemplates config catalog ts).outcome = .error e ↔
        ∃ t parent, FirstOffender Orphaned before ts t ∧ t.parent = some parent ∧
          e = .undeclaredParent t.name.val parent.val) := by
  induction ts with
  | nil =>
    intro catalog before _
    exact ⟨nofun, fun ⟨_, _, h, _⟩ => absurd h not_firstOffender_nil⟩
  | cons t ts ih =>
    intro catalog before h
    simp only [firstOffender_cons_iff]
    rw [buildTemplates, Run.outcome_bind_eq_error_iff]
    rcases hresolve : resolve catalog.known t with d | resolved
    · obtain ⟨horphan, parent, hparent, rfl⟩ := (resolve_eq_error_iff h).1 hresolve
      have hfail : (buildTemplate config catalog t).outcome
          = .error (.undeclaredParent t.name.val parent.val) := by
        rw [buildTemplate, hresolve]
        rfl
      rw [hfail]
      constructor
      · rintro (heq | ⟨_, ⟨⟩, _⟩)
        cases heq
        exact ⟨t, parent, .inl ⟨horphan, rfl⟩, hparent, rfl⟩
      · rintro ⟨u, other, ⟨-, rfl⟩ | ⟨hgood, -⟩, hother, rfl⟩
        · rw [hparent] at hother
          cases hother
          exact .inl rfl
        · exact absurd horphan hgood
    · have hgood : ¬ Orphaned before t := fun horphan => by
        obtain ⟨parent, hparent, -⟩ := id horphan
        have := (resolve_eq_error_iff h).2 ⟨horphan, parent, hparent, rfl⟩
        rw [hresolve] at this
        cases this
      rw [outcome_buildTemplate_of_lenient hlenient hresolve]
      simp only [hgood, false_and, false_or, not_false_eq_true, true_and, reduceCtorEq,
        Except.ok.injEq, exists_eq_left']
      exact ih (h.add t resolved)

theorem exists_buildTemplates_iff {ts : List Template} :
    (∃ catalog, (buildTemplates config .empty ts).outcome = .ok catalog) ↔
      ¬ Offends Orphaned [] ts := by
  rw [Run.exists_ok_iff, offends_orphaned_iff]
  simp only [outcome_buildTemplates_eq_error_iff hlenient Catalog.knows_empty]
  refine not_congr ⟨?_, ?_⟩
  · rintro ⟨_, t, parent, hfirst, hparent, -⟩
    exact ⟨t, parent, hfirst, hparent⟩
  · rintro ⟨t, parent, hfirst, hparent⟩
    exact ⟨_, t, parent, hfirst, hparent, rfl⟩

/-! ### Systems -/

theorem outcome_baseOf_cases (s : System) (before : List System) :
    (¬ (config.variant = .flat ∧ Misbased before s) ∧
      ∃ base, (baseOf config s).outcome = .ok base) ∨
    (config.variant = .flat ∧ Misbased before s ∧ ∃ parent, s.parent = some parent ∧
      (baseOf config s).outcome = .error (.unknownBase s.name.val parent.val)) := by
  unfold baseOf Misbased
  split
  · next hvariant _ =>
    exact .inl ⟨by simp [hvariant], _, Run.outcome_bind_eq_ok_iff.2
      ⟨(), outcome_warn_of_lenient hlenient _, rfl⟩⟩
  · next hvariant _ => exact .inl ⟨by simp [hvariant], _, rfl⟩
  · next hparent => exact .inl ⟨by simp [hparent], _, rfl⟩
  · next parent hvariant hparent =>
    split
    · next base hbase =>
      refine .inl ⟨?_, _, rfl⟩
      rintro ⟨-, other, hother, hnames⟩
      rw [hparent] at hother
      cases hother
      rw [ofParent?_eq_none_iff.2 hnames] at hbase
      cases hbase
    · next hnone =>
      exact .inr ⟨hvariant, ⟨parent, hparent, ofParent?_eq_none_iff.1 hnone⟩, parent, hparent, rfl⟩

/-- **Systems fail at the first one without a base class.** -/
theorem outcome_buildSystems_eq_error_iff {known : Table String Resolved} {ss : List System}
    {e : BuildError} : ∀ (claims : Table String String) (before : List System),
      (buildSystems config known claims ss).outcome = .error e ↔
        config.variant = .flat ∧ ∃ s parent, FirstOffender Misbased before ss s ∧
          s.parent = some parent ∧ e = .unknownBase s.name.val parent.val := by
  induction ss with
  | nil =>
    intro claims before
    exact ⟨nofun, fun ⟨_, _, _, h, _⟩ => absurd h not_firstOffender_nil⟩
  | cons s ss ih =>
    intro claims before
    rw [buildSystems, Run.outcome_bind_eq_error_iff]
    simp only [firstOffender_cons_iff]
    rcases outcome_baseOf_cases hlenient s before with ⟨hgood, base, hbase⟩ |
      ⟨hvariant, hbad, parent, hparent, hbase⟩
    · have hlater : (config.variant = .flat ∧ ∃ u parent,
          (Misbased before s ∧ u = s ∨
            ¬ Misbased before s ∧ FirstOffender Misbased (before ++ [s]) ss u) ∧
          u.parent = some parent ∧ e = .unknownBase u.name.val parent.val) ↔
          config.variant = .flat ∧ ∃ u parent, FirstOffender Misbased (before ++ [s]) ss u ∧
            u.parent = some parent ∧ e = .unknownBase u.name.val parent.val := by
        refine and_congr_right fun hvariant => ?_
        have hbased : ¬ Misbased before s := fun hbad => hgood ⟨hvariant, hbad⟩
        simp only [hbased, false_and, false_or, not_false_eq_true, true_and]
      rw [hlater, hbase]
      simp only [reduceCtorEq, false_or, Except.ok.injEq, exists_eq_left']
      -- Rejected or not, the system leaves it to the systems after it to fail.
      split
      · rw [Run.outcome_bind_eq_error_iff, ← ih claims]
        simp [Run.emit, Run.outcome_bind_eq_error_iff]
      · obtain ⟨next, hnext⟩ := exists_claim_of_lenient hlenient "System" s.name.val
          (scriptFile s.name.val) claims
        rw [Run.outcome_bind_eq_error_iff, hnext, ← ih next]
        simp [Run.outcome_bind_eq_error_iff]
    · rw [hbase]
      constructor
      · rintro (heq | ⟨_, ⟨⟩, _⟩)
        cases heq
        exact ⟨hvariant, s, parent, .inl ⟨hbad, rfl⟩, hparent, rfl⟩
      · rintro ⟨-, u, other, ⟨-, rfl⟩ | ⟨hbased, -⟩, hother, rfl⟩
        · rw [hparent] at hother
          cases hother
          exact .inl rfl
        · exact absurd hbad hbased

/-! ### Compilations -/

/-- Templates can fail, then systems. -/
theorem outcome_compile_eq_error_iff_of_lenient {p : Program} {e : BuildError} :
    (compile config p).outcome = .error e ↔
      (buildTemplates config .empty p.templates).outcome = .error e ∨
      ∃ catalog, (buildTemplates config .empty p.templates).outcome = .ok catalog ∧
        (buildSystems config catalog.known .empty p.systems).outcome = .error e := by
  obtain ⟨components, hcomponents⟩ :=
    exists_buildComponents_of_lenient hlenient p.components .empty
  rw [outcome_compile_eq_error_iff, buildProgram]
  simp [Run.outcome_bind_eq_error_iff, hcomponents]

/-- **The errors of a lenient compilation:** about the first template that offends or, if none does,
about the first system. -/
theorem outcome_compile_eq_error_iff_offender {p : Program} {e : BuildError} :
    (compile config p).outcome = .error e ↔
      (∃ t parent, FirstOffender Orphaned [] p.templates t ∧ t.parent = some parent ∧
        e = .undeclaredParent t.name.val parent.val) ∨
      (¬ Offends Orphaned [] p.templates ∧ config.variant = .flat ∧
        ∃ s parent, FirstOffender Misbased [] p.systems s ∧ s.parent = some parent ∧
          e = .unknownBase s.name.val parent.val) := by
  rw [outcome_compile_eq_error_iff_of_lenient hlenient, ← exists_buildTemplates_iff hlenient,
    outcome_buildTemplates_eq_error_iff hlenient Catalog.knows_empty]
  simp only [outcome_buildSystems_eq_error_iff hlenient _ [], exists_and_right]

theorem exists_undeclaredParent_iff {p : Program} : (∃ template parent,
    (compile config p).outcome = .error (.undeclaredParent template parent)) ↔
      Offends Orphaned [] p.templates := by
  rw [offends_orphaned_iff]
  simp only [outcome_compile_eq_error_iff_offender hlenient]
  constructor
  · rintro ⟨_, _, ⟨t, parent, hfirst, hparent, -⟩ | ⟨-, -, _, _, -, -, ⟨⟩⟩⟩
    exact ⟨t, parent, hfirst, hparent⟩
  · rintro ⟨t, parent, hfirst, hparent⟩
    exact ⟨_, _, .inl ⟨t, parent, hfirst, hparent, rfl⟩⟩

theorem exists_unknownBase_iff {p : Program} :
    (∃ system base, (compile config p).outcome = .error (.unknownBase system base)) ↔
      ¬ Offends Orphaned [] p.templates ∧ config.variant = .flat ∧
        Offends Misbased [] p.systems := by
  rw [offends_misbased_iff]
  simp only [outcome_compile_eq_error_iff_offender hlenient]
  constructor
  · rintro ⟨_, _, ⟨_, _, -, -, ⟨⟩⟩ | ⟨hnone, hvariant, s, parent, hfirst, hparent, -⟩⟩
    exact ⟨hnone, hvariant, s, parent, hfirst, hparent⟩
  · rintro ⟨hnone, hvariant, s, parent, hfirst, hparent⟩
    exact ⟨_, _, .inr ⟨hnone, hvariant, s, parent, hfirst, hparent, rfl⟩⟩

end Lenient

/-- **A lenient compilation fails at the first offender.** If a template extends one that no
template before it declares, the compilation fails and blames the first such template. Otherwise, if
systems may choose their base class and a system names one that cannot be named, it fails and blames
the first such system, whatever that system requires. In all other cases it succeeds, and it fails
in no other way. -/
theorem compile_fails_at_first_offender {config : Config} (hlenient : config.lenient = true)
    (p : Program) :
    (∀ e, (compile config p).outcome = .error e ↔
      (∃ t parent, FirstOffender Orphaned [] p.templates t ∧ t.parent = some parent ∧
        e = .undeclaredParent t.name.val parent.val) ∨
      (¬ Offends Orphaned [] p.templates ∧ config.variant = .flat ∧
        ∃ s parent, FirstOffender Misbased [] p.systems s ∧ s.parent = some parent ∧
          e = .unknownBase s.name.val parent.val)) ∧
    ((∃ template parent, (compile config p).outcome = .error (.undeclaredParent template parent)) ↔
      Offends Orphaned [] p.templates) ∧
    ((∃ system base, (compile config p).outcome = .error (.unknownBase system base)) ↔
      ¬ Offends Orphaned [] p.templates ∧ config.variant = .flat ∧
        Offends Misbased [] p.systems) ∧
    ((∃ output, (compile config p).outcome = .ok output) ↔ ¬ Offends Orphaned [] p.templates ∧
      ¬ (config.variant = .flat ∧ Offends Misbased [] p.systems)) := by
  have hparents := exists_undeclaredParent_iff hlenient (p := p)
  have hbases := exists_unknownBase_iff hlenient (p := p)
  refine ⟨fun e => outcome_compile_eq_error_iff_offender hlenient, hparents, hbases, ?_⟩
  rw [Run.exists_ok_iff, ← not_or]
  refine not_congr ⟨?_, fun hoffends => ?_⟩
  · rintro ⟨e, he⟩
    rcases (outcome_compile_eq_error_iff_offender hlenient).1 he with
      ⟨t, parent, hfirst, hparent, -⟩ | ⟨-, hvariant, s, parent, hfirst, hparent, -⟩
    · exact .inl (offends_orphaned_iff.2 ⟨t, parent, hfirst, hparent⟩)
    · exact .inr ⟨hvariant, offends_misbased_iff.2 ⟨s, parent, hfirst, hparent⟩⟩
  · by_cases hnone : Offends Orphaned [] p.templates
    · obtain ⟨_, _, he⟩ := hparents.2 hnone
      exact ⟨_, he⟩
    · obtain ⟨_, _, he⟩ := hbases.2 ⟨hnone, hoffends.resolve_left hnone⟩
      exact ⟨_, he⟩

/-- A template that extends itself. -/
def strayCub : Template where
  name := ⟨"Cub", ⟨50, 53⟩⟩
  parent := some ⟨"Cub", ⟨54, 57⟩⟩
  instances := []

/-- A system that requires nothing and extends a class that cannot be named. -/
def strayIdle : System where
  name := ⟨"Idle", ⟨60, 64⟩⟩
  parent := some ⟨"Physics", ⟨65, 72⟩⟩
  requirement := ⟨.components, []⟩

/-- A program with templates and the stray system. -/
def strayProgram (templates : List Template) : Program where
  name := ⟨"Stray", ⟨0, 5⟩⟩
  components := []
  templates := templates
  systems := [strayIdle]

theorem compile_fails_at_first_offender_stray :
    (FirstOffender Orphaned [] [wolf, greyWolf, strayCub] strayCub ∧
      (compile { lenient := true } (strayProgram [wolf, greyWolf, strayCub])).outcome
        = .error (.undeclaredParent "Cub" "Cub")) ∧
    (¬ Offends Orphaned [] [wolf, greyWolf] ∧ FirstOffender Misbased [] [strayIdle] strayIdle ∧
      (compile { lenient := true } (strayProgram [wolf, greyWolf])).outcome
        = .error (.unknownBase "Idle" "Physics")) ∧
    ∃ output, (compile { variant := .spatial, lenient := true }
      (strayProgram [wolf, greyWolf])).outcome = .ok output := by
  have hwolf : ¬ Orphaned [] wolf := by
    rintro ⟨_, ⟨⟩, _⟩
  have hgrey : ¬ Orphaned [wolf] greyWolf := by
    rintro ⟨_, ⟨⟩, hnew⟩
    exact hnew (by decide)
  have hcub : FirstOffender Orphaned [] [wolf, greyWolf, strayCub] strayCub :=
    ⟨[wolf, greyWolf], [], rfl, ⟨_, rfl, by decide⟩, by
      simp [offends_cons_iff, hwolf, hgrey, not_offends_nil]⟩
  have hnone : ¬ Offends Orphaned [] [wolf, greyWolf] := by
    simp [offends_cons_iff, hwolf, hgrey, not_offends_nil]
  have hidle : FirstOffender Misbased [] [strayIdle] strayIdle :=
    ⟨[], [], rfl, ⟨_, rfl, by decide, by decide⟩, not_offends_nil⟩
  have hflat : ({ lenient := true } : Config).lenient = true := rfl
  have hspatial : ({ variant := .spatial, lenient := true } : Config).lenient = true := rfl
  obtain ⟨hcubs, -⟩ :=
    compile_fails_at_first_offender hflat (strayProgram [wolf, greyWolf, strayCub])
  obtain ⟨hidles, -⟩ := compile_fails_at_first_offender hflat (strayProgram [wolf, greyWolf])
  obtain ⟨-, -, -, hsucceeds⟩ :=
    compile_fails_at_first_offender hspatial (strayProgram [wolf, greyWolf])
  exact ⟨⟨hcub, (hcubs _).2 (.inl ⟨strayCub, _, hcub, rfl, rfl⟩)⟩,
    ⟨hnone, hidle, (hidles _).2 (.inr ⟨hnone, rfl, strayIdle, _, hidle, rfl, rfl⟩)⟩,
    hsucceeds.2 ⟨hnone, by simp⟩⟩

end EntityForge
