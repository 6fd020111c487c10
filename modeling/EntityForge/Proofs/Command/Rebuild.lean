import EntityForge.Proofs.Include.Passes
import EntityForge.Proofs.Command.Protocol
import EntityForge.Proofs.Save.Tasks

/-! # Building again

A build writes nothing before its source is compiled, and without overwriting it only ever adds to
a store. So the source of a request can be read after the build as it was before, and a second build
finds every file that it would write.

* `Store.Extends.readSource`: a source that can be read stays the same in a larger store.
* `extends_build`: without overwriting, a build changes no entry that was there.
* `build_keeps_entries`: the store after a build, and after the same build once more. -/

namespace EntityForge

open Text

/-! ### Sources in a larger store -/

namespace Store.Extends

variable {later store : Store} (h : later.Extends store) {folder : String}
include h

theorem replaces {expanded files : List Path} {body new : List Char}
    (hline : Replaces store folder expanded body new files) :
    Replaces later folder expanded body new files := by
  cases hline with
  | keep hline => exact .keep hline
  | expand hline hfile hnew hread =>
    exact .expand hline (h.keepsPlacesOf.resolve hfile) hnew (h.readAt hread)

theorem expandLines {lines : List (List Char)} {offset : ℕ} {expanded files : List Path}
    {next : List Char}
    (hlines : expandLines store folder offset expanded lines = .ok (next, files)) :
    EntityForge.expandLines later folder offset expanded lines = .ok (next, files) := by
  induction lines generalizing offset expanded next with
  | nil => exact hlines
  | cons line lines ih =>
    obtain ⟨new, mid, rest, hline, hrest, hnext⟩ := expandLines_cons_eq_ok_iff.1 hlines
    exact expandLines_cons_eq_ok_iff.2 ⟨new, mid, rest, h.replaces hline, ih hrest, hnext⟩

theorem expandPasses {n : ℕ} {expanded : List Path} {text out : List Char}
    (hpasses : expandPasses store folder n expanded text = .ok out) :
    EntityForge.expandPasses later folder n expanded text = .ok out := by
  induction n generalizing expanded text with
  | zero => cases hpasses
  | succ n ih =>
    rw [EntityForge.expandPasses] at hpasses ⊢
    split at hpasses
    · cases hpasses
    · next hpass =>
      rw [expandOnce, h.expandLines hpass]
      dsimp only
      split_ifs at hpasses ⊢
      · exact hpasses
      · exact ih hpasses

theorem readSource {path text : String} (hread : readSource store path = .ok text) :
    EntityForge.readSource later path = .ok text := by
  unfold EntityForge.readSource at hread ⊢
  rcases hsource : store.readText path with e | source
  · rw [hsource] at hread
    cases hread
  · -- The file itself counts as expanded, and its path leads to the same place.
    have hfile : (Origin.ofFile path).expanded later = (Origin.ofFile path).expanded store := by
      rcases hresolve : store.resolve path with e | p
      · rw [Store.readText, hresolve] at hsource
        cases hsource
      · simp [Origin.ofFile, Origin.expanded, hresolve, h.keepsPlacesOf.resolve hresolve]
    rw [hsource] at hread
    rw [h.readText hsource]
    unfold expandIncludes at hread ⊢
    dsimp only at hread ⊢
    rw [hfile]
    rcases hpasses : EntityForge.expandPasses store (Origin.ofFile path).folder passLimit
        ((Origin.ofFile path).expanded store) source.toList with e | out
    · rw [hpasses] at hread
      cases hread
    · rw [hpasses] at hread
      rw [h.expandPasses hpasses]
      exact hread

end Store.Extends

namespace Command

variable {request : Request} {store : Store}

theorem compiled_eq_ok_iff {output : Output} : compiled request store = .ok output ↔
    ∃ source, readSource store request.source = .ok source ∧
      (compileSource request.config source).outcome = .ok output := by
  unfold compiled
  rcases readSource store request.source with e | source
  · simp
  · simp

theorem build_of_compiled {source : String} {output : Output}
    (hsource : readSource store request.source = .ok source)
    (houtput : (compileSource request.config source).outcome = .ok output)
    (schedule : ℕ → Schedule) (faults : Faults) {saved : Saved}
    (hsaved : save output request.output request.config.overwrite
      (schedule output.artifacts.length) store faults = saved) :
    build request schedule store faults
      = ⟨(compileSource request.config source).events ++ saved.events,
        endingOf output saved.outcome, saved.store⟩ := by
  simp only [build, hsource, houtput, hsaved]

theorem build_of_error {e : BuildError} (h : compiled request store = .error e)
    (schedule : ℕ → Schedule) (faults : Faults) :
    (build request schedule store faults).store = store ∧
      ((build request schedule store faults).ending = .notLoaded e ∨
        ∃ source, (build request schedule store faults).ending = .notCompiled source e) := by
  rcases hsource : readSource store request.source with e' | source
  · simp only [compiled, hsource] at h
    cases h
    simp [build, hsource]
  · simp only [compiled, hsource] at h
    simp [build, hsource, h]

/-- **Without overwriting, a build changes no entry that was there,** whatever its end. -/
theorem extends_build (hkeep : request.config.overwrite = false) (schedule : ℕ → Schedule)
    (faults : Faults) : (build request schedule store faults).store.Extends store := by
  rcases hcompiled : compiled request store with e | output
  · rw [(build_of_error hcompiled schedule faults).1]
    exact .refl store
  · obtain ⟨source, hsource, houtput⟩ := compiled_eq_ok_iff.1 hcompiled
    rw [build_of_compiled hsource houtput schedule faults rfl, hkeep]
    exact extends_save _ store faults

/-- **The end of a build that has saved all of its output.** -/
def Ending.IsSaved (ending : Ending) : Prop :=
  ending = .succeeded ∨ ∃ systems, ending = .rejected systems

theorem exists_ok_of_endingOf {output : Output} {outcome : Except BuildError Counts}
    (h : (endingOf output outcome).IsSaved) : ∃ counts, outcome = .ok counts := by
  rcases outcome with e | counts
  · rcases h with h | ⟨_, h⟩ <;> cases h
  · exact ⟨counts, rfl⟩

theorem exists_compiled_of_saved {schedule : ℕ → Schedule} {faults : Faults}
    (h : (build request schedule store faults).ending.IsSaved) :
    ∃ output, compiled request store = .ok output := by
  rcases hcompiled : compiled request store with e | output
  · obtain ⟨-, hending | ⟨_, hending⟩⟩ := build_of_error hcompiled schedule faults
    · rw [hending] at h
      rcases h with h | ⟨_, h⟩ <;> cases h
    · rw [hending] at h
      rcases h with h | ⟨_, h⟩ <;> cases h
  · exact ⟨output, rfl⟩

/-- **A build that saves all of its output in spite of faults** comes to what it comes to without
them, and so does its saving. -/
theorem build_of_faults {schedule : ℕ → Schedule} (hschedule : ∀ n, (schedule n).Valid n)
    {faults : Faults} (h : (build request schedule store faults).ending.IsSaved) {output : Output}
    (hcompiled : compiled request store = .ok output) :
    build request schedule store faults = build request schedule store ∧
      save output request.output request.config.overwrite (schedule output.artifacts.length) store
          faults
        = save output request.output request.config.overwrite (schedule output.artifacts.length)
          store := by
  obtain ⟨source, hsource, houtput⟩ := compiled_eq_ok_iff.1 hcompiled
  have hbuild := build_of_compiled hsource houtput schedule faults rfl
  rw [hbuild] at h
  obtain ⟨counts, hok⟩ := exists_ok_of_endingOf h
  have hsave := save_of_faults (hschedule _) hok
  refine ⟨?_, hsave⟩
  rw [hbuild, hsave]
  exact (build_of_compiled hsource houtput schedule {} rfl).symm

/-- **What a build does to a store,** whatever faults the disk has. If the source cannot be loaded
or compiled, nothing. Otherwise, unless files are to be overwritten, every entry that was there is
still the same, whatever the end of the build; and after a build that saved all of its output, the
same build changes nothing, ends in the same way, and reports every artifact as skipped. If that
second build has faults, the same holds as long as it saves all of its output. -/
theorem build_keeps_entries (request : Request) (schedule : ℕ → Schedule) (store : Store)
    (faults : Faults) :
    (∀ e, compiled request store = .error e →
      (build request schedule store faults).store = store ∧
      ((build request schedule store faults).ending = .notLoaded e ∨
        ∃ source, (build request schedule store faults).ending = .notCompiled source e)) ∧
    (request.config.overwrite = false →
      (∀ p e, store.find? p = some e →
        (build request schedule store faults).store.find? p = some e) ∧
      ∀ first, build request schedule store faults = first → first.ending.IsSaved →
        (∀ n, (schedule n).Valid n) → ∀ again : ℕ → Schedule, (∀ n, (again n).Valid n) →
        ∃ output notices logs, compiled request store = .ok output ∧
          compiled request first.store = .ok output ∧
          build request again first.store
            = ⟨notices ++ logs ++ [.completed output.projectName], first.ending, first.store⟩ ∧
          (∀ e ∈ notices, e.isNotice = true) ∧
          logs.Perm (output.artifacts.map fun a => .ofArtifact a true) ∧
          (save output request.output request.config.overwrite (again output.artifacts.length)
            first.store).outcome = .ok ⟨0, output.artifacts.length⟩ ∧
          ∀ later : Faults, (build request again first.store later).ending.IsSaved →
            build request again first.store later = build request again first.store ∧
            save output request.output request.config.overwrite (again output.artifacts.length)
                first.store later
              = save output request.output request.config.overwrite
                (again output.artifacts.length) first.store) := by
  refine ⟨fun e he => build_of_error he schedule faults, fun hkeep =>
    ⟨(extends_build hkeep schedule faults).kept, ?_⟩⟩
  rintro first rfl hsaved hschedule again hagain
  obtain ⟨output, hcompiled⟩ := exists_compiled_of_saved hsaved
  obtain ⟨source, hsource, houtput⟩ := compiled_eq_ok_iff.1 hcompiled
  -- The first build is one without faults.
  have hsame := (build_of_faults hschedule hsaved hcompiled).1
  rw [hsame] at hsaved ⊢
  have hextends : (build request schedule store).store.Extends store :=
    extends_build hkeep schedule {}
  have hfirst := build_of_compiled hsource houtput schedule {} rfl
  rw [hkeep] at hfirst
  rw [hfirst] at hsaved hextends ⊢
  obtain ⟨counts, hok⟩ := exists_ok_of_endingOf hsaved
  obtain ⟨hstore, ⟨logs, hevents, hlogs⟩, houtcome⟩ :=
    save_again (hschedule _) hok rfl (hagain output.artifacts.length)
  have hread := hextends.readSource hsource
  have hcompiled' := compiled_eq_ok_iff.2 ⟨source, hread, houtput⟩
  refine ⟨output, (compileSource request.config source).events, logs, hcompiled, hcompiled', ?_,
    (compileSource_of_ok houtput).1, hlogs, by rw [hkeep]; exact houtcome,
    fun later hlater => build_of_faults hagain hlater hcompiled'⟩
  rw [build_of_compiled hread houtput again {} rfl, hkeep, hstore, hevents, houtcome, hok,
    List.append_assoc]
  rfl

/-- A source that includes another one, a malformed source, and a file of the reader's own where a
component is to be written. -/
def guardStore : Store where
  entries := .ofList
    [(["guard.cv"], .file (.text ("#include \"body.cv\"\nproject Guard\n"
      ++ "system Move \x7b components: [Body] \x7d\n"))),
      (["body.cv"], .file (.text "component Body \x7b x: 1 \x7d\n")),
      (["broken.cv"], .file (.text "project Guard\ncomponent 1\n")),
      (["out"], .directory), (["out", "components"], .directory),
      (["out", "components", "body.js"], .file (.text "mine"))]

/-- A disk that is full when the second artifact has been written in part. -/
def fullDisk : Faults where
  write i := if i = 1 then some (.interrupted (.other "No space left on device (os error 28)") 10)
    else none

theorem build_keeps_entries_guard :
    (∃ e, compiled (patrolRequest "broken.cv") guardStore = .error e ∧
      (build (patrolRequest "broken.cv") Schedule.inOrder guardStore).store = guardStore) ∧
    (patrolRequest "guard.cv").config.overwrite = false ∧
    guardStore.find? ["out", "components", "body.js"] = some (.file (.text "mine")) ∧
    (∃ failed, build (patrolRequest "guard.cv") Schedule.inOrder guardStore fullDisk = failed ∧
      failed.ending = .notSaved (.inaccessible "out/systems/move.js"
        (.other "No space left on device (os error 28)")) ∧
      failed.store.find? ["out", "systems", "move.js"] = some (.file (.text "var Move =")) ∧
      failed.store.find? ["out", "components", "body.js"] = some (.file (.text "mine"))) ∧
    ∃ first, build (patrolRequest "guard.cv") Schedule.inOrder guardStore = first ∧
      first.store.find? ["out", "components", "body.js"] = some (.file (.text "mine")) ∧
      first.ending = .succeeded ∧ (∀ n, (Schedule.inOrder n).Valid n) ∧
      ∃ output, compiled (patrolRequest "guard.cv") guardStore = .ok output ∧
        (build (patrolRequest "guard.cv") Schedule.inOrder first.store).store = first.store ∧
        (build (patrolRequest "guard.cv") Schedule.inOrder first.store).ending = .succeeded ∧
        (save output "out" false (Schedule.inOrder output.artifacts.length) first.store).outcome
          = .ok ⟨0, output.artifacts.length⟩ ∧
        build (patrolRequest "guard.cv") Schedule.inOrder first.store fullDisk
          = build (patrolRequest "guard.cv") Schedule.inOrder first.store := by
  have hending : (build (patrolRequest "guard.cv") Schedule.inOrder guardStore).ending
      = .succeeded := by
    decide +kernel
  have herror : (compiled (patrolRequest "broken.cv") guardStore).toOption = none := by
    decide +kernel
  obtain ⟨e, he⟩ : ∃ e, compiled (patrolRequest "broken.cv") guardStore = .error e := by
    rcases hbroken : compiled (patrolRequest "broken.cv") guardStore with e | output
    · exact ⟨e, rfl⟩
    · rw [hbroken] at herror
      cases herror
  have hmine : guardStore.find? ["out", "components", "body.js"] = some (.file (.text "mine")) := by
    decide
  have hfull : (build (patrolRequest "guard.cv") Schedule.inOrder guardStore fullDisk).ending
      = .notSaved (.inaccessible "out/systems/move.js"
        (.other "No space left on device (os error 28)")) := by
    decide +kernel
  have hpart : (build (patrolRequest "guard.cv") Schedule.inOrder guardStore fullDisk).store.find?
      ["out", "systems", "move.js"] = some (.file (.text "var Move =")) := by
    decide +kernel
  have hlater : (build (patrolRequest "guard.cv") Schedule.inOrder
      (build (patrolRequest "guard.cv") Schedule.inOrder guardStore).store fullDisk).ending
      = .succeeded := by
    decide +kernel
  obtain ⟨hstopped, -⟩ :=
    build_keeps_entries (patrolRequest "broken.cv") Schedule.inOrder guardStore {}
  obtain ⟨-, hfailed⟩ :=
    build_keeps_entries (patrolRequest "guard.cv") Schedule.inOrder guardStore fullDisk
  obtain ⟨-, hkeep⟩ :=
    build_keeps_entries (patrolRequest "guard.cv") Schedule.inOrder guardStore {}
  obtain ⟨hkept, hagain⟩ := hkeep rfl
  obtain ⟨output, notices, logs, hcompiled, -, hbuild, -, -, hcounts, hfaulty⟩ :=
    hagain _ rfl (.inl hending) Schedule.valid_inOrder Schedule.inOrder Schedule.valid_inOrder
  exact ⟨⟨e, he, (hstopped e he).1⟩, rfl, hmine,
    ⟨_, rfl, hfull, hpart, (hfailed rfl).1 _ _ hmine⟩, _, rfl, hkept _ _ hmine, hending,
    Schedule.valid_inOrder, output, hcompiled, by rw [hbuild], by rw [hbuild, hending], hcounts,
    (hfaulty fullDisk (.inl hlater)).1⟩

end Command

end EntityForge
