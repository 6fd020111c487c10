import EntityForge.Proofs.Build.Steps
import Mathlib.Data.List.Basic

/-! # Stopping on the first warning

A lenient build passes over its warnings, a strict one fails on the first. Up to that warning the
two do the same, so a strict build is a lenient one that is cut off behind its first warning.

* `CutShort`: a run, and the same run cut off behind its first warning.
* `CutShort.stepRelation`: lenient and strict runs are in this relation, step by step.
* `compile_strict_of_lenient`: so are compilations. -/

namespace EntityForge

/-- No event of a list is a warning. -/
def WithoutWarning (events : List Event) : Prop :=
  ∀ e ∈ events, e.warning? = none

theorem WithoutWarning.append {es fs : List Event} (hes : WithoutWarning es)
    (hfs : WithoutWarning fs) : WithoutWarning (es ++ fs) :=
  List.forall_mem_append.2 ⟨hes, hfs⟩

theorem WithoutWarning.filterMap_eq_nil {es : List Event} (h : WithoutWarning es) :
    es.filterMap Event.warning? = [] :=
  List.filterMap_eq_nil_iff.2 h

theorem WithoutWarning.append_cons_inj {es fs rest others : List Event} {message text : String}
    (hes : WithoutWarning es) (hfs : WithoutWarning fs)
    (h : es ++ .warning message :: rest = fs ++ .warning text :: others) :
    es = fs ∧ message = text := by
  induction es generalizing fs with
  | nil =>
    rcases fs with _ | ⟨f, fs⟩
    · cases h
      exact ⟨rfl, rfl⟩
    · cases h
      exact absurd (hfs _ List.mem_cons_self) nofun
  | cons e es ih =>
    rcases fs with _ | ⟨f, fs⟩
    · cases h
      exact absurd (hes _ List.mem_cons_self) nofun
    · obtain ⟨rfl, htail⟩ := List.cons.inj h
      obtain ⟨rfl, rfl⟩ := ih (fun x hx => hes x (List.mem_cons_of_mem _ hx))
        (fun x hx => hfs x (List.mem_cons_of_mem _ hx)) htail
      exact ⟨rfl, rfl⟩

/-- **A lenient run and the strict run beside it:** the same run if there is no warning, and
otherwise the lenient run cut off behind its first warning. The lenient run keeps its warnings. -/
inductive CutShort {α : Type} : Run α → Run α → Prop
  | same {events : List Event} {outcome : Except BuildError α} (h : WithoutWarning events) :
      CutShort ⟨events, [], outcome⟩ ⟨events, [], outcome⟩
  | cut {before after : List Event} {message : String} {warnings : List Warning}
      {outcome : Except BuildError α} (h : WithoutWarning before)
      (hwarnings : warnings.map Warning.message = message :: after.filterMap Event.warning?) :
      CutShort ⟨before ++ .warning message :: after, warnings, outcome⟩
        ⟨before ++ [.warning message], [], .error (.stoppedOnWarning message)⟩

namespace CutShort

variable {α β : Type}

theorem warnings_eq {r s : Run α} (h : CutShort r s) :
    r.warnings.map Warning.message = r.events.filterMap Event.warning? := by
  cases h with
  | same hevents => exact hevents.filterMap_eq_nil.symm
  | cut hbefore hwarnings =>
    rw [List.filterMap_append, hbefore.filterMap_eq_nil, hwarnings]
    rfl

theorem extend {before after more : List Event} {message : String}
    {warnings others : List Warning} {outcome : Except BuildError α} (h : WithoutWarning before)
    (hwarnings : warnings.map Warning.message = message :: after.filterMap Event.warning?)
    (hothers : others.map Warning.message = more.filterMap Event.warning?) :
    CutShort ⟨(before ++ .warning message :: after) ++ more, warnings ++ others, outcome⟩
      ⟨before ++ [.warning message], [], .error (.stoppedOnWarning message)⟩ := by
  rw [List.append_assoc, List.cons_append]
  refine cut h ?_
  rw [List.map_append, hwarnings, hothers, List.filterMap_append, List.cons_append]

theorem bind {r s : Run α} {f g : α → Run β} (h : CutShort r s)
    (hnext : ∀ a, CutShort (f a) (g a)) : CutShort (r >>= f) (s >>= g) := by
  cases h with
  | @same events outcome hevents =>
    rcases outcome with e | a
    · exact same hevents
    · rw [Run.bind_ok, Run.bind_ok, List.nil_append, List.nil_append]
      have ha := hnext a
      revert ha
      generalize f a = next
      generalize g a = other
      intro ha
      cases ha with
      | same hmore => exact same (hevents.append hmore)
      | cut hmore hwarnings =>
        rw [← List.append_assoc, ← List.append_assoc]
        exact cut (hevents.append hmore) hwarnings
  | @cut before after message warnings outcome hbefore hwarnings =>
    rw [Run.bind_error]
    rcases outcome with e | a
    · exact cut hbefore hwarnings
    · rw [Run.bind_ok]
      exact extend hbefore hwarnings (hnext a).warnings_eq

/-- **Lenient and strict runs,** step by step. -/
theorem stepRelation (config : Config) :
    StepRelation { config with lenient := true } { config with lenient := false }
      fun _ => CutShort where
  value _ := same nofun
  undeclaredParent _ _ := same nofun
  unknownBase _ _ := same nofun
  warning _ := cut (nofun : WithoutWarning []) rfl
  bind := bind

theorem eq_of_withoutWarning {r s : Run α} (h : CutShort r s) (hno : WithoutWarning r.events) :
    s.outcome = r.outcome ∧ s.events = r.events := by
  cases h with
  | same => exact ⟨rfl, rfl⟩
  | cut => exact absurd (hno _ (List.mem_append_right _ List.mem_cons_self)) nofun

theorem stops {r s : Run α} (h : CutShort r s) {before after : List Event} {message : String}
    (hevents : r.events = before ++ .warning message :: after) (hbefore : WithoutWarning before) :
    s.outcome = .error (.stoppedOnWarning message) ∧ s.events = before ++ [.warning message] := by
  cases h with
  | same hno =>
    simp only at hevents
    subst hevents
    exact absurd (hno _ (List.mem_append_right _ List.mem_cons_self)) nofun
  | cut hfirst =>
    obtain ⟨rfl, rfl⟩ := hfirst.append_cons_inj hbefore hevents
    exact ⟨rfl, rfl⟩

end CutShort

theorem cutShort_compile (config : Config) (p : Program) :
    CutShort (compile { config with lenient := true } p)
      (compile { config with lenient := false } p) := by
  have hrejected : ∀ e, CutShort (Run.emit (.rejected e)) (Run.emit (.rejected e)) := fun e =>
    .same (List.forall_mem_singleton.2 rfl)
  have hrun := (CutShort.stepRelation config).buildProgram rfl hrejected p
  unfold compile
  revert hrun
  generalize buildProgram { config with lenient := true } p = r
  generalize buildProgram { config with lenient := false } p = s
  intro hrun
  cases hrun with
  | same h => exact .same h
  | cut h hwarnings => exact .cut h hwarnings

/-- **A strict build is a lenient one up to its first warning.** Without a warning both come to the
same and report the same. Otherwise the strict build fails with the first warning of the lenient
one and reports what that one has reported up to there, however the lenient build goes on. A
lenient build that succeeds has kept the warnings it has reported. -/
theorem compile_strict_of_lenient (config : Config) (p : Program) :
    (WithoutWarning (compile { config with lenient := true } p).events →
      (compile { config with lenient := false } p).outcome
          = (compile { config with lenient := true } p).outcome ∧
        (compile { config with lenient := false } p).events
          = (compile { config with lenient := true } p).events) ∧
    (∀ before message after,
      (compile { config with lenient := true } p).events = before ++ .warning message :: after →
      WithoutWarning before →
      (compile { config with lenient := false } p).outcome = .error (.stoppedOnWarning message) ∧
        (compile { config with lenient := false } p).events = before ++ [.warning message]) ∧
    ∀ output, (compile { config with lenient := true } p).outcome = .ok output →
      output.warnings.map Warning.message
        = (compile { config with lenient := true } p).events.filterMap Event.warning? := by
  have h := cutShort_compile config p
  refine ⟨h.eq_of_withoutWarning, fun before message after => h.stops, fun output houtput => ?_⟩
  obtain ⟨-, -, -, -, -, -, hwarnings⟩ := outcome_compile_eq_ok_iff.1 houtput
  rw [hwarnings]
  exact h.warnings_eq

/-- A program with an empty system, one that asks for a base class, and one that shares its file. -/
def unevenProgram : Program where
  name := ⟨"Uneven", ⟨8, 14⟩⟩
  components := []
  templates := []
  systems :=
    [⟨⟨"Idle", ⟨0, 4⟩⟩, none, ⟨.components, []⟩⟩,
      ⟨⟨"Move", ⟨5, 9⟩⟩, some ⟨"RenderSystem", ⟨10, 22⟩⟩, ⟨.components, [⟨"Body", ⟨23, 27⟩⟩]⟩⟩,
      ⟨⟨"MoveSystem", ⟨28, 38⟩⟩, none, ⟨.components, [⟨"Body", ⟨39, 43⟩⟩]⟩⟩]

theorem compile_strict_of_lenient_uneven :
    (WithoutWarning (compile { lenient := true } { unevenProgram with systems := [] }).events ∧
      (compile {} { unevenProgram with systems := [] }).outcome
        = (compile { lenient := true } { unevenProgram with systems := [] }).outcome ∧
      (compile {} { unevenProgram with systems := [] }).events
        = (compile { lenient := true } { unevenProgram with systems := [] }).events) ∧
    ((compile { variant := .spatial, lenient := true } unevenProgram).events
        = [.rejected (.emptyRequirement "Idle")]
          ++ .warning "Ignoring system inheritance on 'Move'" ::
          [.warning
            "System 'MoveSystem' and 'Move' both generate 'move.js'; the later one wins"] ∧
      (compile { variant := .spatial } unevenProgram).outcome
        = .error (.stoppedOnWarning "Ignoring system inheritance on 'Move'") ∧
      (compile { variant := .spatial } unevenProgram).events
        = [.rejected (.emptyRequirement "Idle")]
          ++ [.warning "Ignoring system inheritance on 'Move'"]) ∧
    ∃ output,
      (compile { variant := .spatial, lenient := true } unevenProgram).outcome = .ok output ∧
      output.warnings.map Warning.message
        = (compile { variant := .spatial, lenient := true } unevenProgram).events.filterMap
          Event.warning? := by
  have hquiet : (compile { lenient := true } { unevenProgram with systems := [] }).events = [] :=
    rfl
  have hevents : (compile { variant := .spatial, lenient := true } unevenProgram).events
      = [.rejected (.emptyRequirement "Idle")]
        ++ .warning "Ignoring system inheritance on 'Move'" ::
        [.warning
          "System 'MoveSystem' and 'Move' both generate 'move.js'; the later one wins"] := by
    decide +kernel
  have hbefore : WithoutWarning [.rejected (.emptyRequirement "Idle")] :=
    List.forall_mem_singleton.2 rfl
  obtain ⟨output, houtput⟩ : ∃ output,
      (compile { variant := .spatial, lenient := true } unevenProgram).outcome = .ok output :=
    Run.exists_ok (by decide +kernel)
  have hnone : WithoutWarning (compile { lenient := true }
      { unevenProgram with systems := [] }).events := by
    rw [hquiet]
    exact nofun
  exact ⟨⟨hnone, (compile_strict_of_lenient {} _).1 hnone⟩,
    ⟨hevents, (compile_strict_of_lenient { variant := .spatial } _).2.1 _ _ _ hevents hbefore⟩,
    output, houtput, (compile_strict_of_lenient { variant := .spatial } _).2.2 output houtput⟩

end EntityForge
