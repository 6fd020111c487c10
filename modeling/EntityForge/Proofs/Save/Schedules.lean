import EntityForge.Save
import Mathlib.Data.List.Perm.Subperm

/-! # Saving in any order

Whatever the order in which tasks run and are joined, a saving reports the artifacts one by one as
they are joined, and ends with the first failure that is joined, or else is complete. It is complete
exactly if every task succeeds, each in the store that the tasks before it have left.

* `Schedule.Valid.write_of_join`, `Schedule.Valid.join_of_write`: a task is joined after it runs,
  and it is joined.
* `SaveState.HasRun`: the results that are kept are those of the tasks that have run.
* `Reports`, `reports_save`: the events of a saving, by the artifacts that are joined.
* `writeAll`: all tasks one after the other. `exists_ok_save_iff`: a saving is complete if they
  succeed. -/

namespace EntityForge

/-! ### Schedules -/

namespace Schedule

variable {n i : ℕ} {schedule done rest : Schedule}

@[simp] theorem writes_write : writes (.write i :: rest) = i :: writes rest := rfl

@[simp] theorem writes_join : writes (.join i :: rest) = writes rest := rfl

@[simp] theorem joins_write : joins (.write i :: rest) = joins rest := rfl

@[simp] theorem joins_join : joins (.join i :: rest) = i :: joins rest := rfl

theorem writes_append (done rest : Schedule) : writes (done ++ rest) = writes done ++ writes rest :=
  List.filterMap_append ..

theorem joins_append (done rest : Schedule) : joins (done ++ rest) = joins done ++ joins rest :=
  List.filterMap_append ..

theorem mem_writes : i ∈ writes schedule ↔ .write i ∈ schedule := by
  induction schedule with
  | nil => exact ⟨nofun, nofun⟩
  | cons step rest ih => cases step <;> simp [ih]

theorem mem_joins : i ∈ joins schedule ↔ .join i ∈ schedule := by
  induction schedule with
  | nil => exact ⟨nofun, nofun⟩
  | cons step rest ih => cases step <;> simp [ih]

theorem Valid.lt_of_write (h : Valid n (done ++ .write i :: rest)) : i < n := by
  have hmem : i ∈ Schedule.writes (done ++ .write i :: rest) := mem_writes.2 (by simp)
  exact List.mem_range.1 (h.writes.mem_iff.1 hmem)

theorem Valid.lt_of_join (h : Valid n (done ++ .join i :: rest)) : i < n := by
  have hmem : i ∈ Schedule.joins (done ++ .join i :: rest) := mem_joins.2 (by simp)
  exact List.mem_range.1 (h.joins.mem_iff.1 hmem)

theorem Valid.write_of_join (h : Valid n (done ++ .join i :: rest)) : .write i ∈ done :=
  h.ordered done i rest rfl

theorem Valid.write_not_mem (h : Valid n (done ++ .write i :: rest)) : .write i ∉ done := by
  intro hmem
  have hnodup := h.writes.nodup_iff.2 List.nodup_range
  rw [writes_append, writes_write] at hnodup
  exact (List.nodup_append.1 hnodup).2.2 i (mem_writes.2 hmem) i List.mem_cons_self rfl

theorem Valid.join_of_write (h : Valid n (done ++ .write i :: rest)) : i ∈ rest.joins := by
  have hmem := h.joins.mem_iff.2 (List.mem_range.2 h.lt_of_write)
  rw [joins_append, joins_write] at hmem
  rcases List.mem_append.1 hmem with hdone | hrest
  · obtain ⟨before, after, rfl⟩ := List.append_of_mem (mem_joins.1 hdone)
    have hearly := h.ordered before i (after ++ .write i :: rest) (by simp)
    exact absurd (List.mem_append_left _ hearly) h.write_not_mem
  · exact hrest

theorem Valid.snoc (h : Valid n schedule) : Valid (n + 1) (schedule ++ [.write n, .join n]) where
  writes := by
    rw [writes_append, List.range_succ]
    exact h.writes.append_right _
  joins := by
    rw [joins_append, List.range_succ]
    exact h.joins.append_right _
  ordered before i after heq := by
    rcases List.append_eq_append_iff.1 heq with ⟨more, rfl, hmore⟩ | ⟨more, rfl, hmore⟩
    · -- The join is the new one, and the write just before it.
      rcases more with _ | ⟨step, more⟩
      · cases hmore
      · obtain ⟨rfl, hmore⟩ := List.cons.inj hmore
        rcases more with _ | ⟨step, more⟩
        · cases hmore
          exact List.mem_append_right _ List.mem_cons_self
        · cases more <;> cases hmore
    · rcases more with _ | ⟨step, more⟩
      · cases hmore
      · obtain ⟨rfl, -⟩ := List.cons.inj hmore
        exact h.ordered before i more rfl

theorem valid_inOrder (n : ℕ) : Valid n (inOrder n) := by
  induction n with
  | zero => exact ⟨.refl _, .refl _, by simp [inOrder]⟩
  | succ n ih =>
    have hsucc : inOrder (n + 1) = inOrder n ++ [.write n, .join n] := by
      simp [inOrder, List.range_succ]
    exact hsucc ▸ ih.snoc

end Schedule

/-! ### Artifacts by their numbers -/

/-- The artifacts with the given numbers. -/
def Output.pick (output : Output) (indices : List ℕ) : List Artifact :=
  indices.filterMap (output.artifacts[·]?)

theorem Output.pick_cons {output : Output} {i : ℕ} {a : Artifact}
    (ha : output.artifacts[i]? = some a) (indices : List ℕ) :
    output.pick (i :: indices) = a :: output.pick indices :=
  List.filterMap_cons_some ha

theorem Output.pick_perm {output : Output} {indices : List ℕ}
    (h : indices.Perm (List.range output.artifacts.length)) :
    (output.pick indices).Perm output.artifacts := by
  have hmap : (List.range output.artifacts.length).map (output.artifacts[·]?)
      = output.artifacts.map some :=
    List.ext_getElem (by simp) fun i _ _ => by simp
  have hall : output.pick (List.range output.artifacts.length) = output.artifacts :=
    calc output.pick (List.range output.artifacts.length)
        = ((List.range output.artifacts.length).map (output.artifacts[·]?)).filterMap id := by
          rw [List.filterMap_map]
          rfl
      _ = output.artifacts := by
          rw [hmap, List.filterMap_map]
          exact List.filterMap_some
  exact hall ▸ h.filterMap _

/-! ### All tasks one after the other -/

/-- The tasks with the given numbers: their artifacts, with the faults that they meet. -/
def Output.tasks (output : Output) (faults : Faults) (indices : List ℕ) :
    List (Artifact × Option WriteFault) :=
  indices.filterMap fun i => output.artifacts[i]?.map fun a => (a, faults.write i)

theorem Output.tasks_cons {output : Output} {i : ℕ} {a : Artifact}
    (ha : output.artifacts[i]? = some a) (faults : Faults) (indices : List ℕ) :
    output.tasks faults (i :: indices) = (a, faults.write i) :: output.tasks faults indices :=
  List.filterMap_cons_some (by rw [ha]; rfl)

theorem Output.map_fst_tasks (output : Output) (faults : Faults) (indices : List ℕ) :
    (output.tasks faults indices).map Prod.fst = output.pick indices := by
  rw [Output.tasks, List.map_filterMap, Output.pick]
  simp only [Option.map_map, Function.comp_def, Option.map_id']

theorem Output.of_mem_tasks {output : Output} {indices : List ℕ}
    {t : Artifact × Option WriteFault} (h : t ∈ output.tasks {} indices) :
    t.1 ∈ output.artifacts ∧ t.2 = none := by
  obtain ⟨i, -, hi⟩ := List.mem_filterMap.1 h
  obtain ⟨a, ha, rfl⟩ := Option.map_eq_some_iff.1 hi
  exact ⟨List.mem_of_getElem? ha, rfl⟩

theorem Output.exists_task {output : Output} {indices : List ℕ}
    (h : indices.Perm (List.range output.artifacts.length)) (faults : Faults) {a : Artifact}
    (ha : a ∈ output.artifacts) : ∃ t ∈ output.tasks faults indices, t.1 = a := by
  rw [← List.mem_map, output.map_fst_tasks]
  exact (Output.pick_perm h).mem_iff.2 ha

/-- **Runs tasks one after the other.** -/
def writeAll (root : String) (overwrite : Bool) (store : Store) :
    List (Artifact × Option WriteFault) → Except BuildError Store
  | [] => .ok store
  | (a, fault) :: rest =>
    match writeArtifact root overwrite store a fault with
    | (store, .ok _) => writeAll root overwrite store rest
    | (_, .error e) => .error e

theorem writeAll_cons_eq_ok_iff {root : String} {overwrite : Bool} {store last : Store}
    {a : Artifact} {fault : Option WriteFault} {rest : List (Artifact × Option WriteFault)} :
    writeAll root overwrite store ((a, fault) :: rest) = .ok last ↔ ∃ after skipped,
      writeArtifact root overwrite store a fault = (after, .ok skipped) ∧
      writeAll root overwrite after rest = .ok last := by
  rw [writeAll]
  rcases writeArtifact root overwrite store a fault with ⟨after, e | skipped⟩
  · simp
  · simp

/-! ### The steps of a saving -/

namespace SaveState

variable {output : Output} {root : String} {overwrite : Bool} {faults : Faults} {s : SaveState}
  {done rest : Schedule} {i : ℕ} {a : Artifact} {fault : Option WriteFault}

/-- **The tasks that have run** are those of `done`. -/
def HasRun (s : SaveState) (done : Schedule) : Prop :=
  ∀ i, (s.finished.find? i).isSome = true ↔ .write i ∈ done

theorem HasRun.write (h : s.HasRun done) :
    (s.write root overwrite i a fault).HasRun (done ++ [.write i]) := by
  intro j
  rw [SaveState.write, List.mem_append, List.mem_singleton]
  by_cases hj : j = i
  · subst hj
    simp
  · rw [Table.find?_insert_of_ne _ hj, h j]
    simp [hj]

theorem HasRun.join (h : s.HasRun done) : s.HasRun (done ++ [.join i]) := by
  intro j
  rw [h j]
  simp

/-- **What can happen when the rest of a schedule is carried out:** a task runs that has not run
before and that is joined later, a result is taken, or a failure. -/
inductive Carries (output : Output) (root : String) (overwrite : Bool) (faults : Faults) :
    SaveState → Schedule → Saved → Prop
  | complete (s : SaveState) :
      Carries output root overwrite faults s []
        ⟨s.store, s.events ++ [.completed output.projectName], .ok s.counts⟩
  | write {s : SaveState} {i : ℕ} {a : Artifact} {rest : Schedule} {saved : Saved}
      (ha : output.artifacts[i]? = some a) (hnew : s.finished.find? i = none)
      (hjoin : i ∈ rest.joins)
      (h : Carries output root overwrite faults (s.write root overwrite i a (faults.write i)) rest
        saved) :
      Carries output root overwrite faults s (.write i :: rest) saved
  | join {s : SaveState} {i : ℕ} {a : Artifact} {skipped : Bool} {rest : Schedule} {saved : Saved}
      (ha : output.artifacts[i]? = some a) (hfound : s.finished.find? i = some (.ok skipped))
      (h : Carries output root overwrite faults
        { s with
          events := s.events ++ [.ofArtifact a skipped]
          counts := s.counts.add skipped } rest saved) :
      Carries output root overwrite faults s (.join i :: rest) saved
  | fail {s : SaveState} {i : ℕ} {e : BuildError} {rest : Schedule}
      (hfound : s.finished.find? i = some (.error e)) :
      Carries output root overwrite faults s (.join i :: rest)
        ⟨s.store, s.events ++ [.failed e], .error e⟩

theorem carries_run (hvalid : Schedule.Valid output.artifacts.length (done ++ rest))
    (hrun : s.HasRun done) :
    Carries output root overwrite faults s rest (run output root overwrite faults s rest) := by
  induction rest generalizing s done with
  | nil => exact .complete s
  | cons step rest ih =>
    have hnext := hvalid
    rw [List.append_cons] at hnext
    cases step with
    | write i =>
      have ha : output.artifacts[i]? = some _ := List.getElem?_eq_getElem hvalid.lt_of_write
      have hnew : s.finished.find? i = none := by
        rw [← Option.not_isSome_iff_eq_none, hrun i]
        exact hvalid.write_not_mem
      simp only [run, ha]
      exact .write ha hnew hvalid.join_of_write (ih hnext hrun.write)
    | join i =>
      have ha : output.artifacts[i]? = some _ := List.getElem?_eq_getElem hvalid.lt_of_join
      obtain ⟨result, hfound⟩ := Option.isSome_iff_exists.1 ((hrun i).2 hvalid.write_of_join)
      simp only [run, ha, hfound]
      rcases result with e | skipped
      · exact .fail hfound
      · exact .join ha hfound (ih hnext (HasRun.join hrun))

theorem carries_run_start {schedule : Schedule} (store : Store)
    (hvalid : schedule.Valid output.artifacts.length) :
    Carries output root overwrite faults { store := store } schedule
      (run output root overwrite faults { store := store } schedule) := by
  have hnone : HasRun { store := store } [] := fun i => by simp
  have hall : Schedule.Valid output.artifacts.length ([] ++ schedule) := hvalid
  exact carries_run hall hnone

end SaveState

/-! ### What is reported -/

/-- **The events of a saving,** given the artifacts in the order in which they are joined: one for
each artifact, up to the first failure, or to the end if there is none. -/
inductive Reports (project : String) :
    List Artifact → List Event → Except BuildError Counts → Prop
  | complete (counts : Counts) : Reports project [] [.completed project] (.ok counts)
  | fail (artifacts : List Artifact) (e : BuildError) :
      Reports project artifacts [.failed e] (.error e)
  | join {a : Artifact} {artifacts : List Artifact} {events : List Event}
      {outcome : Except BuildError Counts} (skipped : Bool)
      (h : Reports project artifacts events outcome) :
      Reports project (a :: artifacts) (.ofArtifact a skipped :: events) outcome

section Outcome
variable {output : Output} {root : String} {overwrite : Bool} {faults : Faults}

theorem SaveState.Carries.reports {s : SaveState} {rest : Schedule} {saved : Saved}
    (h : Carries output root overwrite faults s rest saved) :
    ∃ events, saved.events = s.events ++ events ∧
      Reports output.projectName (output.pick rest.joins) events saved.outcome := by
  induction h with
  | complete s => exact ⟨_, rfl, .complete _⟩
  | write ha hnew hjoin h ih => exact ih
  | @join s i a skipped rest saved ha hfound h ih =>
    obtain ⟨events, hevents, hreports⟩ := ih
    refine ⟨.ofArtifact a skipped :: events, by simp [hevents], ?_⟩
    rw [Schedule.joins_join, Output.pick_cons ha]
    exact .join skipped hreports
  | fail hfound => exact ⟨_, rfl, .fail _ _⟩

theorem SaveState.Carries.exists_ok_iff {s : SaveState} {rest : Schedule} {saved : Saved}
    (h : Carries output root overwrite faults s rest saved) :
    (∃ counts, saved.outcome = .ok counts) ↔
      (∃ store, writeAll root overwrite s.store (output.tasks faults rest.writes) = .ok store) ∧
        ∀ i ∈ rest.joins, ∀ e, s.finished.find? i ≠ some (.error e) := by
  induction h with
  | complete s => exact ⟨fun _ => ⟨⟨_, rfl⟩, nofun⟩, fun _ => ⟨_, rfl⟩⟩
  | @write s i a rest saved ha hnew hjoin h ih =>
    rw [ih, Schedule.writes_write, Schedule.joins_write, Output.tasks_cons ha, SaveState.write,
      writeAll]
    rcases writeArtifact root overwrite s.store a (faults.write i) with ⟨after, e | skipped⟩
    · -- A task that fails is joined later on, so it is waiting by then.
      constructor
      · rintro ⟨-, hnone⟩
        exact absurd (Table.find?_insert_self _ i _) (hnone i hjoin e)
      · rintro ⟨⟨_, hall⟩, -⟩
        cases hall
    · have hwaiting : ∀ j e, (s.finished.insert i (.ok skipped)).find? j = some (.error e) ↔
          s.finished.find? j = some (.error e) := by
        intro j e
        by_cases hj : j = i
        · subst hj
          simp [hnew]
        · rw [Table.find?_insert_of_ne _ hj]
      exact and_congr_right' (forall₂_congr fun j _ =>
        forall_congr' fun e => not_congr (hwaiting j e))
  | @join s i a skipped rest saved ha hfound h ih =>
    rw [ih, Schedule.writes_join, Schedule.joins_join, List.forall_mem_cons, hfound]
    simp
  | @fail s i e rest hfound =>
    constructor
    · rintro ⟨_, ⟨⟩⟩
    · rintro ⟨-, hnone⟩
      exact absurd hfound (hnone i List.mem_cons_self e)

/-- A task of a complete saving has succeeded, since it is joined. -/
theorem SaveState.Carries.exists_ok_of_write {s : SaveState} {i : ℕ} {a : Artifact}
    {rest : Schedule} {saved : Saved} {counts : Counts}
    (h : Carries output root overwrite faults (s.write root overwrite i a (faults.write i)) rest
      saved) (hjoin : i ∈ rest.joins) (hok : saved.outcome = .ok counts) :
    ∃ after skipped,
      writeArtifact root overwrite s.store a (faults.write i) = (after, .ok skipped) := by
  have hnone := (h.exists_ok_iff.1 ⟨counts, hok⟩).2 i hjoin
  rcases hwrite : writeArtifact root overwrite s.store a (faults.write i)
    with ⟨after, e | skipped⟩
  · rw [SaveState.write, hwrite] at hnone
    exact absurd (Table.find?_insert_self _ i _) (hnone e)
  · exact ⟨after, skipped, rfl⟩

/-- **A saving reports its artifacts as they are joined.** -/
theorem reports_save {schedule : Schedule} (hvalid : schedule.Valid output.artifacts.length)
    (root : String) (overwrite : Bool) (store : Store) (faults : Faults) :
    Reports output.projectName (output.pick schedule.joins)
      (save output root overwrite schedule store faults).events
      (save output root overwrite schedule store faults).outcome := by
  unfold save
  split
  · exact .fail _ _
  · next made _ =>
    obtain ⟨events, hevents, hreports⟩ := (SaveState.carries_run_start made hvalid).reports
    rw [hevents]
    exact hreports

/-- **A saving is complete** exactly if the directories can be made and every task succeeds. -/
theorem exists_ok_save_iff {schedule : Schedule} (hvalid : schedule.Valid output.artifacts.length)
    (root : String) (overwrite : Bool) (store : Store) (faults : Faults := {}) :
    (∃ counts, (save output root overwrite schedule store faults).outcome = .ok counts) ↔
      ∃ made written,
        makeEach store [joinPath root "components", joinPath root "systems"] faults
          = (made, .ok ()) ∧
        writeAll root overwrite made (output.tasks faults schedule.writes) = .ok written := by
  unfold save
  rcases makeEach store [joinPath root "components", joinPath root "systems"] faults
    with ⟨made, e | ⟨⟩⟩
  · simp
  · simp [(SaveState.carries_run_start made hvalid).exists_ok_iff]

end Outcome

end EntityForge
