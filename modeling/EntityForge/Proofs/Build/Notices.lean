import EntityForge.Proofs.Build.Turns

/-! # What a compilation reports

While it compiles a program, a build reports notices only: warnings, and systems it rejects. How the
compilation fails is reported after it, and never as malformed source, since a program is read by
then. The rejections that are reported are those the output lists.

* `Run.OnlyNotices`, `onlyNotices_compile`: notices, and no malformed source.
* `Run.WithoutRejection`: components and templates reject nothing.
* `rejections_buildSystems`: systems reject in their turns.
* `rejections_compile`: the rejections of a compilation. -/

namespace EntityForge

/-- Whether a build goes on after an event as if nothing had happened. -/
def Event.isNotice : Event → Bool
  | warning _ | rejected _ => true
  | _ => false

/-- The error of a rejection. -/
def Event.rejected? : Event → Option BuildError
  | rejected e => some e
  | _ => none

theorem rejected_mem_iff {events : List Event} {e : BuildError} :
    .rejected e ∈ events ↔ e ∈ events.filterMap Event.rejected? := by
  rw [List.mem_filterMap]
  constructor
  · exact fun h => ⟨_, h, rfl⟩
  · rintro ⟨event, hmem, hevent⟩
    cases event with
    | rejected =>
      cases hevent
      exact hmem
    | _ => cases hevent

namespace Run

variable {α β : Type}

/-! ### Notices -/

/-- **A run that reports notices only** and does not fail on malformed source. -/
structure OnlyNotices (r : Run α) : Prop where
  events : ∀ e ∈ r.events, e.isNotice = true
  outcome : ∀ e, r.outcome ≠ .error (.malformed e)

theorem OnlyNotices.bind {r : Run α} {f : α → Run β} (hr : r.OnlyNotices)
    (hf : ∀ a, (f a).OnlyNotices) : (r >>= f).OnlyNotices := by
  rcases r with ⟨events, warnings, e | a⟩
  · exact ⟨hr.events, fun m h => hr.outcome m (by cases h; rfl)⟩
  · exact ⟨List.forall_mem_append.2 ⟨hr.events, (hf a).events⟩, (hf a).outcome⟩

theorem onlyNotices_warn (config : Config) (w : Warning) : (warn config w).OnlyNotices := by
  unfold warn
  split
  · exact ⟨List.forall_mem_singleton.2 rfl, nofun⟩
  · exact ⟨List.forall_mem_singleton.2 rfl, nofun⟩

theorem OnlyNotices.stepRelation (config : Config) :
    StepRelation config config fun _ r _ => r.OnlyNotices where
  value _ := ⟨nofun, nofun⟩
  undeclaredParent _ _ := ⟨nofun, nofun⟩
  unknownBase _ _ := ⟨nofun, nofun⟩
  warning := onlyNotices_warn config
  bind := OnlyNotices.bind

/-! ### Rejections -/

/-- A run that rejects nothing. -/
def WithoutRejection (r : Run α) : Prop :=
  r.events.filterMap Event.rejected? = []

theorem WithoutRejection.bind {r : Run α} {f : α → Run β} (hr : r.WithoutRejection)
    (hf : ∀ a, (f a).WithoutRejection) : (r >>= f).WithoutRejection := by
  rcases r with ⟨events, warnings, e | a⟩
  · exact hr
  · exact (List.filterMap_append ..).trans (List.append_eq_nil_iff.2 ⟨hr, hf a⟩)

theorem withoutRejection_warn (config : Config) (w : Warning) :
    (warn config w).WithoutRejection := by
  unfold warn
  split
  · rfl
  · rfl

theorem WithoutRejection.stepRelation (config : Config) :
    StepRelation config config fun _ r _ => r.WithoutRejection where
  value _ := rfl
  undeclaredParent _ _ := rfl
  unknownBase _ _ := rfl
  warning := withoutRejection_warn config
  bind := WithoutRejection.bind

theorem WithoutRejection.rejections_bind {r : Run α} {f : α → Run β} {a : α}
    (hr : r.WithoutRejection) (ha : r.outcome = .ok a) :
    (r >>= f).events.filterMap Event.rejected? = (f a).events.filterMap Event.rejected? := by
  rw [events_bind_of_ok ha, List.filterMap_append, hr, List.nil_append]

end Run

theorem onlyNotices_compile (config : Config) (p : Program) :
    (compile config p).OnlyNotices := by
  have hrejected : ∀ e, (Run.emit (.rejected e)).OnlyNotices := fun e =>
    ⟨List.forall_mem_singleton.2 rfl, nofun⟩
  have h := (Run.OnlyNotices.stepRelation config).buildProgram rfl hrejected p
  refine ⟨h.events, fun e he => h.outcome e ?_⟩
  rcases hrun : (buildProgram config p).outcome with e | result
  · simp only [compile, hrun, Except.map] at he
    cases he
    rfl
  · simp only [compile, hrun, Except.map] at he
    cases he

theorem filterMap_rejected?_warningEvents (ws : List Warning) :
    (warningEvents ws).filterMap Event.rejected? = [] := by
  rw [warningEvents, List.filterMap_map]
  exact List.filterMap_eq_nil_iff.2 fun _ _ => rfl

theorem rejections_buildSystems {config : Config} {known : Table String Resolved}
    {ss : List System} {claims : Table String String} {accepted : List Artifact}
    {rejected : List String}
    (h : (buildSystems config known claims ss).outcome = .ok (accepted, rejected)) :
    (buildSystems config known claims ss).events.filterMap Event.rejected?
      = rejected.map .emptyRequirement := by
  obtain ⟨turns, -, -, -, rfl, hevents, -⟩ := turns_of_buildSystems h
  rw [hevents]
  clear h hevents
  induction turns with
  | nil => rfl
  | cons t turns ih =>
    rw [List.flatMap_cons, List.filterMap_append, ih, SystemTurn.events, List.filterMap_append,
      filterMap_rejected?_warningEvents, List.nil_append, SystemTurn.rejections]
    rcases hrequired : t.isAccepted with _ | _
    · rw [rejectedTurns, rejectedTurns, List.filter_cons_of_pos (by simp [hrequired])]
      rfl
    · rw [rejectedTurns, rejectedTurns, List.filter_cons_of_neg (by simp [hrequired])]
      rfl

/-- **The rejections of a compilation** are those its output lists, in order. -/
theorem rejections_compile {config : Config} {p : Program} {output : Output}
    (h : (compile config p).outcome = .ok output) :
    (compile config p).events.filterMap Event.rejected?
      = output.rejected.map .emptyRequirement := by
  obtain ⟨catalog, hcomponents, htemplates, hsystems, -⟩ := outcome_compile_eq_ok_iff.1 h
  have hsteps := Run.WithoutRejection.stepRelation config
  change (buildProgram config p).events.filterMap Event.rejected? = _
  rw [buildProgram, (hsteps.buildComponents rfl _ _).rejections_bind hcomponents,
    (hsteps.buildTemplates _ _).rejections_bind htemplates, Run.events_bind_of_ok hsystems,
    List.filterMap_append, rejections_buildSystems hsystems]
  exact List.append_nil _

end EntityForge
