import EntityForge.Proofs.Save.Schedules
import EntityForge.Proofs.Store.Growth

/-! # What tasks do to a store

A task puts a file at the place that its path leads to, or leaves the store as it is; a fault may
cut the file short. So no task disturbs where the path of another one leads, and without overwriting
no entry is ever changed. What is known of single tasks carries over to whole savings, in whatever
order the tasks run and are joined.

* `store_writeArtifact`, `writeArtifact_eq_ok_iff`: one task, with any fault, and without.
* `extends_save`: without overwriting, a saving changes no entry that was there, whatever its
  faults.
* `save_of_faults`: a saving that is complete in spite of faults is the one without faults.
* `SaveState.Carries.writeAll_eq`: a complete saving leaves what the tasks leave one by one.
* `SaveState.Carries.of_tasks`: tasks that succeed with known results, from every state that an
  invariant describes, make up a complete saving with known events and counts.
* `makeEach_again`, `save_again`: what a saving has made and written is not made and written
  again. -/

namespace EntityForge

/-! ### One task -/

/-- Whether a task skips its file: something is there already, and nothing is to be overwritten. -/
def skips (overwrite : Bool) (store : Store) (p : Path) : Bool :=
  !overwrite && (store.find? p).isSome

section Task
variable {root : String} {overwrite : Bool} {store after : Store} {a : Artifact}
  {fault : Option WriteFault} {skipped : Bool} {result : Except BuildError Bool}

/-- **A task that succeeds in spite of a fault** does what it does without: it skips its file. -/
theorem writeArtifact_of_fault
    (h : writeArtifact root overwrite store a fault = (after, .ok skipped)) :
    writeArtifact root overwrite store a = (after, .ok skipped) := by
  rcases fault with _ | ⟨cause, genuine⟩ | ⟨cause, length⟩
  · exact h
  · cases h
  · unfold writeArtifact at h ⊢
    dsimp only at h ⊢
    split at h
    · exact h
    · cases h
    · cases h

/-- **One task:** it writes its file, or skips it. A directory cannot be overwritten. -/
theorem writeArtifact_eq_ok_iff :
    writeArtifact root overwrite store a = (after, .ok skipped) ↔
      ∃ p, store.filePlace (joinPath root a.outputPath) = .ok p ∧
        (overwrite = true → store.find? p ≠ some .directory) ∧
        skipped = skips overwrite store p ∧
        after = if skipped then store else store.put p (.file (.text a.source)) := by
  unfold writeArtifact skips
  dsimp only
  constructor
  · intro h
    split at h
    · next hopen =>
      obtain ⟨rfl, p, hplace, hfound⟩ := Store.openFile_eq_alreadyExists_iff.1 hopen
      cases h
      exact ⟨p, hplace, nofun, by simp [hfound], rfl⟩
    · cases h
    · next p hopen =>
      obtain ⟨hplace, hdirectory, hnone⟩ := Store.openFile_eq_ok_iff.1 hopen
      cases h
      refine ⟨p, hplace, hdirectory, ?_, rfl⟩
      cases overwrite with
      | true => rfl
      | false => simp [hnone rfl]
  · rintro ⟨p, hplace, hdirectory, rfl, rfl⟩
    by_cases hskips : (!overwrite && (store.find? p).isSome) = true
    · obtain ⟨hkeep, hfound⟩ := Bool.and_eq_true_iff.1 hskips
      have hopen := Store.openFile_eq_alreadyExists_iff.2
        ⟨by simpa using hkeep, p, hplace, hfound⟩
      rw [hopen, hskips]
      rfl
    · have hopen := Store.openFile_eq_ok_iff.2 ⟨hplace, hdirectory, fun hkeep => by
        simpa [hkeep] using hskips⟩
      rw [hopen, Bool.eq_false_iff.2 hskips]
      rfl

/-- **What a task does to a store,** whatever its fault: it puts a file at the place where it was
opened, or nothing. -/
theorem store_writeArtifact
    (h : writeArtifact root overwrite store a fault = (after, result)) : after = store ∨
      ∃ p contents, store.openFile (joinPath root a.outputPath) overwrite = .ok p ∧
        after = store.put p (.file contents) := by
  unfold writeArtifact at h
  dsimp only at h
  split at h
  · cases h
    exact .inl rfl
  · split at h
    · cases h
      exact .inl rfl
    · cases h
      exact .inl rfl
    · next p hopen =>
      split at h
      · cases h
        exact .inr ⟨p, _, hopen, rfl⟩
      · cases h
        exact .inr ⟨p, _, hopen, rfl⟩

theorem keepsPlacesOf_writeArtifact
    (h : writeArtifact root overwrite store a fault = (after, result)) :
    after.KeepsPlacesOf store := by
  rcases store_writeArtifact h with rfl | ⟨p, contents, hopen, rfl⟩
  · exact (Store.Extends.refl after).keepsPlacesOf
  · obtain ⟨-, hdirectory, hnone⟩ := Store.openFile_eq_ok_iff.1 hopen
    refine Store.keepsPlacesOf_put ?_ _
    cases overwrite with
    | true => exact hdirectory rfl
    | false => simp [hnone rfl]

theorem extends_writeArtifact (h : writeArtifact root false store a fault = (after, result)) :
    after.Extends store := by
  rcases store_writeArtifact h with rfl | ⟨p, contents, hopen, rfl⟩
  · exact .refl after
  · exact Store.extends_put ((Store.openFile_eq_ok_iff.1 hopen).2.2 rfl) _

theorem isSome_of_writeArtifact
    (h : writeArtifact root overwrite store a fault = (after, .ok skipped)) :
    ∃ p, after.filePlace (joinPath root a.outputPath) = .ok p ∧ (after.find? p).isSome = true := by
  have hkeeps := keepsPlacesOf_writeArtifact h
  obtain ⟨p, hplace, hfind, hskipped, rfl⟩ := writeArtifact_eq_ok_iff.1 (writeArtifact_of_fault h)
  refine ⟨p, hkeeps.filePlace hplace, ?_⟩
  split
  · next hkept =>
    rw [hskipped, skips, Bool.and_eq_true] at hkept
    exact hkept.2
  · by_cases hp : p = []
    · rw [hp, Store.find?_nil]
      rfl
    · rw [Store.find?_put_self store hp]
      rfl

end Task

/-! ### All tasks -/

section All
variable {root : String} {overwrite : Bool} {tasks : List (Artifact × Option WriteFault)}
  {store last : Store}

theorem keepsPlacesOf_writeAll (h : writeAll root overwrite store tasks = .ok last) :
    last.KeepsPlacesOf store := by
  induction tasks generalizing store with
  | nil =>
    cases h
    exact (Store.Extends.refl _).keepsPlacesOf
  | cons task rest ih =>
    obtain ⟨after, skipped, ha, hrest⟩ := writeAll_cons_eq_ok_iff.1 h
    exact (ih hrest).trans (keepsPlacesOf_writeArtifact ha)

theorem isSome_of_writeAll (h : writeAll root overwrite store tasks = .ok last) : ∀ t ∈ tasks,
    ∃ p, last.filePlace (joinPath root t.1.outputPath) = .ok p ∧ (last.find? p).isSome = true := by
  induction tasks generalizing store with
  | nil => nofun
  | cons task rest ih =>
    obtain ⟨after, skipped, ha, hrest⟩ := writeAll_cons_eq_ok_iff.1 h
    refine List.forall_mem_cons.2 ⟨?_, ih hrest⟩
    obtain ⟨p, hplace, hfound⟩ := isSome_of_writeArtifact ha
    have hkeeps := keepsPlacesOf_writeAll hrest
    exact ⟨p, hkeeps.filePlace hplace, hkeeps.isSome p hfound⟩

theorem ne_directory_of_writeAll (h : writeAll root true store tasks = .ok last) : ∀ t ∈ tasks,
    ∀ p, store.filePlace (joinPath root t.1.outputPath) = .ok p →
      store.find? p ≠ some .directory := by
  induction tasks generalizing store with
  | nil => nofun
  | cons task rest ih =>
    obtain ⟨after, skipped, ha, hrest⟩ := writeAll_cons_eq_ok_iff.1 h
    refine List.forall_mem_cons.2 ⟨fun p hp => ?_, fun b hb p hp hfind => ?_⟩
    · obtain ⟨q, hq, hdirectory, -⟩ := writeArtifact_eq_ok_iff.1 (writeArtifact_of_fault ha)
      rw [hp] at hq
      cases hq
      exact hdirectory rfl
    · have hkeeps := keepsPlacesOf_writeArtifact ha
      exact ih hrest b hb p (hkeeps.filePlace hp) (hkeeps.directory p hfind)

end All

namespace SaveState

variable {output : Output} {root : String} {overwrite : Bool} {faults : Faults} {s : SaveState}
  {rest : Schedule} {saved : Saved}

/-- **A complete saving leaves what its tasks leave one by one.** -/
theorem Carries.writeAll_eq (h : Carries output root overwrite faults s rest saved)
    {counts : Counts} (hok : saved.outcome = .ok counts) :
    writeAll root overwrite s.store (output.tasks faults rest.writes) = .ok saved.store := by
  induction h with
  | complete s => rfl
  | @write s i a rest saved ha hnew hjoin h ih =>
    obtain ⟨after, skipped, hwrite⟩ := h.exists_ok_of_write hjoin hok
    have hall := ih hok
    rw [SaveState.write, hwrite] at hall
    rw [Schedule.writes_write, Output.tasks_cons ha]
    exact writeAll_cons_eq_ok_iff.2 ⟨after, skipped, hwrite, hall⟩
  | join ha hfound h ih => exact ih hok
  | fail hfound => cases hok

/-- **A saving that is complete in spite of faults** is the one without faults. -/
theorem Carries.run_eq (h : Carries output root overwrite faults s rest saved) {counts : Counts}
    (hok : saved.outcome = .ok counts) : run output root overwrite {} s rest = saved := by
  induction h with
  | complete s => rfl
  | @write s i a rest saved ha hnew hjoin h ih =>
    obtain ⟨after, skipped, hwrite⟩ := h.exists_ok_of_write hjoin hok
    have hsame : s.write root overwrite i a none = s.write root overwrite i a (faults.write i) := by
      rw [SaveState.write, SaveState.write, hwrite, writeArtifact_of_fault hwrite]
    rw [← ih hok, ← hsame]
    simp only [run, ha]
  | join ha hfound h ih =>
    rw [← ih hok]
    simp only [run, ha, hfound]
  | fail hfound => cases hok

/-- **Tasks with known results make up a complete saving.** From every store that the invariant
describes, given the tasks that have run, a task that has not run succeeds with the flag of its
artifact, and the invariant goes on. -/
theorem Carries.of_tasks {flag : Artifact → Bool} {inv : List ℕ → Store → Prop}
    (htask : ∀ written store i a, inv written store → i ∉ written →
      output.artifacts[i]? = some a → ∃ after,
        writeArtifact root overwrite store a = (after, .ok (flag a)) ∧ inv (written ++ [i]) after)
    (h : Carries output root overwrite {} s rest saved) {written : List ℕ}
    (hnodup : (written ++ rest.writes).Nodup) (hinv : inv written s.store)
    (hfinished : ∀ i r, s.finished.find? i = some r → ∃ a,
      output.artifacts[i]? = some a ∧ r = .ok (flag a)) :
    inv (written ++ rest.writes) saved.store ∧
    saved.events = s.events ++ (output.pick rest.joins).map (fun a => .ofArtifact a (flag a))
      ++ [.completed output.projectName] ∧
    saved.outcome = .ok ((output.pick rest.joins).foldl (fun c a => c.add (flag a)) s.counts) := by
  induction h generalizing written with
  | complete s =>
    exact ⟨by simpa [Schedule.writes] using hinv, by simp [Output.pick, Schedule.joins], rfl⟩
  | @write s i a rest saved ha hnew hjoin h ih =>
    rw [Schedule.writes_write, List.append_cons] at hnodup ⊢
    rw [Schedule.joins_write]
    have hfresh : i ∉ written := fun hi => by
      rw [List.append_assoc] at hnodup
      exact (List.nodup_append.1 hnodup).2.2 i hi i List.mem_cons_self rfl
    obtain ⟨after, hwrite, hafter⟩ := htask written s.store i a hinv hfresh ha
    have hs : s.write root overwrite i a none
        = { s with store := after, finished := s.finished.insert i (.ok (flag a)) } := by
      rw [SaveState.write, hwrite]
    rw [hs] at ih
    refine ih hnodup hafter fun j r hr => ?_
    by_cases hj : j = i
    · rw [hj, Table.find?_insert_self] at hr
      exact ⟨a, hj ▸ ha, (Option.some.inj hr).symm⟩
    · rw [Table.find?_insert_of_ne _ hj] at hr
      exact hfinished j r hr
  | @join s i a skipped rest saved ha hfound h ih =>
    rw [Schedule.writes_join] at hnodup ⊢
    rw [Schedule.joins_join, Output.pick_cons ha]
    obtain ⟨a', ha', hskipped⟩ := hfinished i _ hfound
    rw [ha] at ha'
    cases ha'
    cases hskipped
    obtain ⟨hlast, hevents, houtcome⟩ := ih hnodup hinv hfinished
    exact ⟨hlast, by simp [hevents], houtcome⟩
  | fail hfound =>
    obtain ⟨_, -, hr⟩ := hfinished _ _ hfound
    cases hr

end SaveState

/-! ### Whole savings -/

section Saving
variable {output : Output} {root : String} {overwrite : Bool}

theorem extends_run (faults : Faults) (s : SaveState) (schedule : Schedule) :
    (s.run output root false faults schedule).store.Extends s.store := by
  induction schedule generalizing s with
  | nil => exact .refl s.store
  | cons step rest ih =>
    cases step with
    | write i =>
      rw [SaveState.run]
      split
      · next a ha => exact (ih _).trans (extends_writeArtifact rfl)
      · exact ih s
    | join i =>
      rw [SaveState.run]
      split
      · exact ih _
      · exact .refl s.store
      · exact ih s

theorem addsDirectories_makeEach {kind : Path → Prop} {paths : List String} {store : Store}
    (faults : Faults) (hkind : ∀ path ∈ paths, ∀ parts, parts <+: namedSegments path →
      ∀ (s : Store) p, s.target (store.origin path) parts = .ok (some p) → kind p) :
    (makeEach store paths faults).1.AddsDirectories store kind := by
  induction paths generalizing store with
  | nil => exact .refl store kind
  | cons path rest ih =>
    have hfirst :
        (store.makeDirectories path (faults.directory path)).1.AddsDirectories store kind :=
      Store.addsDirectories_makeDirectories _ (hkind path List.mem_cons_self)
    rw [makeEach]
    split
    · next made hmade =>
      rw [hmade] at hfirst
      refine (ih fun other hother => ?_).trans hfirst
      rw [hfirst.extends.keepsPlacesOf.origin]
      exact hkind other (List.mem_cons_of_mem path hother)
    · next hmade =>
      rw [hmade] at hfirst
      exact hfirst

theorem extends_makeEach (store : Store) (paths : List String) (faults : Faults := {}) :
    (makeEach store paths faults).1.Extends store := by
  have h : (makeEach store paths faults).1.AddsDirectories store fun _ => True :=
    addsDirectories_makeEach faults fun _ _ _ _ _ _ _ => trivial
  exact h.extends

/-- **Without overwriting, a saving changes no entry that was there,** whatever becomes of it. -/
theorem extends_save (schedule : Schedule) (store : Store) (faults : Faults) :
    (save output root false schedule store faults).store.Extends store := by
  have hmade := extends_makeEach store [joinPath root "components", joinPath root "systems"] faults
  unfold save
  split
  · next heq =>
    rw [heq] at hmade
    exact hmade
  · next heq =>
    rw [heq] at hmade
    exact (extends_run faults _ schedule).trans hmade

theorem makeEach_of_faults {paths : List String} {store made : Store} {faults : Faults}
    (h : makeEach store paths faults = (made, .ok ())) : makeEach store paths = (made, .ok ()) := by
  induction paths generalizing store with
  | nil => exact h
  | cons path rest ih =>
    rw [makeEach] at h ⊢
    split at h
    · next first hfirst =>
      rw [Store.makeDirectories_of_fault hfirst]
      exact ih h
    · cases h

/-- **A saving that is complete in spite of faults** comes to what it comes to without. -/
theorem save_of_faults {schedule : Schedule} (hvalid : schedule.Valid output.artifacts.length)
    {store : Store} {faults : Faults} {counts : Counts}
    (hok : (save output root overwrite schedule store faults).outcome = .ok counts) :
    save output root overwrite schedule store faults
      = save output root overwrite schedule store := by
  obtain ⟨made, -, hmade, -⟩ := (exists_ok_save_iff hvalid root overwrite store faults).1 ⟨_, hok⟩
  rw [save, hmade] at hok ⊢
  rw [save, makeEach_of_faults hmade]
  exact ((SaveState.carries_run_start made hvalid).run_eq hok).symm

theorem makeEach_again {paths : List String} {store made later : Store}
    (h : makeEach store paths = (made, .ok ())) (hlater : later.KeepsPlacesOf made) :
    makeEach later paths = (later, .ok ()) := by
  induction paths generalizing store with
  | nil => rfl
  | cons path rest ih =>
    rw [makeEach] at h ⊢
    split at h
    · next first hfirst =>
      have hrest := extends_makeEach first rest
      rw [h] at hrest
      rw [Store.makeDirectories_again hfirst (hlater.trans hrest.keepsPlacesOf)]
      exact ih h
    · cases h

theorem foldl_add (flag : Artifact → Bool) (artifacts : List Artifact) (c : Counts) :
    artifacts.foldl (fun c a => c.add (flag a)) c
      = ⟨c.written + artifacts.countP fun a => !flag a, c.skipped + artifacts.countP flag⟩ := by
  induction artifacts generalizing c with
  | nil => rfl
  | cons a rest ih =>
    rw [List.foldl_cons, ih, Counts.add, List.countP_cons, List.countP_cons]
    cases flag a with
    | true =>
      simp only [if_true, Bool.not_true, Bool.false_eq_true, if_false, Counts.mk.injEq]
      omega
    | false =>
      simp only [if_true, Bool.not_false, Bool.false_eq_true, if_false, Counts.mk.injEq]
      omega

/-- **A saving whose directories can be made and whose tasks have known results:** it is complete in
every order, and so are its events and counts. -/
theorem save_of_tasks {flag : Artifact → Bool} {inv : List ℕ → Store → Prop} {store made : Store}
    (hmade : makeEach store [joinPath root "components", joinPath root "systems"] = (made, .ok ()))
    (htask : ∀ written store i a, inv written store → i ∉ written →
      output.artifacts[i]? = some a → ∃ after,
        writeArtifact root overwrite store a = (after, .ok (flag a)) ∧ inv (written ++ [i]) after)
    (hinv : inv [] made) {schedule : Schedule} (hvalid : schedule.Valid output.artifacts.length) :
    inv schedule.writes (save output root overwrite schedule store).store ∧
    (∃ logs, (save output root overwrite schedule store).events
        = logs ++ [.completed output.projectName] ∧
      logs.Perm (output.artifacts.map fun a => .ofArtifact a (flag a))) ∧
    (save output root overwrite schedule store).outcome
      = .ok ⟨output.artifacts.countP fun a => !flag a, output.artifacts.countP flag⟩ := by
  have hnodup : ([] ++ schedule.writes).Nodup := hvalid.writes.nodup_iff.2 List.nodup_range
  have hjoins := Output.pick_perm hvalid.joins
  obtain ⟨hlast, hevents, houtcome⟩ := (SaveState.carries_run_start made hvalid).of_tasks htask
    hnodup hinv nofun
  have hsave : save output root overwrite schedule store
      = SaveState.run output root overwrite {} { store := made } schedule := by
    rw [save, hmade]
  rw [hsave]
  refine ⟨hlast, ⟨_, by simpa using hevents, hjoins.map _⟩, ?_⟩
  rw [houtcome, foldl_add, hjoins.countP_eq, hjoins.countP_eq]
  simp

/-- **Saving a second time skips everything** if nothing is overwritten. -/
theorem save_again {schedule again : Schedule} {store last : Store} {counts : Counts}
    (hvalid : schedule.Valid output.artifacts.length)
    (hok : (save output root false schedule store).outcome = .ok counts)
    (hlast : (save output root false schedule store).store = last)
    (hagain : again.Valid output.artifacts.length) :
    (save output root false again last).store = last ∧
    (∃ logs, (save output root false again last).events
        = logs ++ [.completed output.projectName] ∧
      logs.Perm (output.artifacts.map fun a => .ofArtifact a true)) ∧
    (save output root false again last).outcome = .ok ⟨0, output.artifacts.length⟩ := by
  obtain ⟨made, _, hmade, -⟩ := (exists_ok_save_iff hvalid root false store).1 ⟨counts, hok⟩
  have hsave : save output root false schedule store
      = SaveState.run output root false {} { store := made } schedule := by
    rw [save, hmade]
  rw [hsave] at hok hlast
  have hall := (SaveState.carries_run_start made hvalid).writeAll_eq hok
  rw [hlast] at hall
  have htask : ∀ (written : List ℕ) (s : Store) i a, s = last → i ∉ written →
      output.artifacts[i]? = some a → ∃ after,
        writeArtifact root false s a = (after, .ok true) ∧ after = last := by
    rintro written s i a rfl - ha
    obtain ⟨t, ht, rfl⟩ := Output.exists_task hvalid.writes {} (List.mem_of_getElem? ha)
    obtain ⟨p, hplace, hfound⟩ := isSome_of_writeAll hall t ht
    exact ⟨s, writeArtifact_eq_ok_iff.2 ⟨p, hplace, nofun, by simp [skips, hfound], rfl⟩, rfl⟩
  have hdirectories := makeEach_again hmade (keepsPlacesOf_writeAll hall)
  obtain ⟨hstore, hevents, houtcome⟩ := save_of_tasks hdirectories htask rfl hagain
  exact ⟨hstore, hevents, by simpa using houtcome⟩

end Saving

end EntityForge
