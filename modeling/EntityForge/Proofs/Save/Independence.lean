import EntityForge.Proofs.Save.Places

/-! # Saving in any order comes to the same

Every artifact has its place, and different paths have different places. So no task touches the
place of another one, and what a task finds at its place is what was there when the directories had
been made. If a saving is complete in one order, it is complete in every order, with the same files,
the same counts and the same reports.

* `Holds`: a store in which some artifacts have been written. `Holds.write`: one task more.
* `Holds.agrees`: such stores agree, whatever the order.
* `FindsPlace`: what the task of an artifact finds.
* `save_agrees_in_any_order`: a saving does not depend on the order. -/

namespace EntityForge

/-! ### Stores in which artifacts have been written -/

/-- **A store in which some artifacts have been written:** those that are not skipped are at their
places, and everything else is as it was when the directories had been made. -/
structure Holds (overwrite : Bool) (made : Store) (base : Path) (artifacts : List Artifact)
    (store : Store) : Prop where
  keeps : store.KeepsPlacesOf made
  written : ∀ a ∈ artifacts, skips overwrite made (a.place base) = false →
    store.find? (a.place base) = some (.file (.text a.source))
  unchanged : ∀ p, (∀ a ∈ artifacts, skips overwrite made (a.place base) = false →
    a.place base ≠ p) → store.find? p = made.find? p

section Holds
variable {overwrite : Bool} {made store : Store} {base : Path} {artifacts : List Artifact}

theorem holds_nil (overwrite : Bool) (made : Store) (base : Path) :
    Holds overwrite made base [] made :=
  ⟨(Store.Extends.refl made).keepsPlacesOf, nofun, fun _ _ => rfl⟩

/-- **One task more.** It finds at its place what was there at first. -/
theorem Holds.write {root : String} {a : Artifact} (h : Holds overwrite made base artifacts store)
    (hplace : made.filePlace (joinPath root a.outputPath) = .ok (a.place base))
    (hdirectory : overwrite = true → made.find? (a.place base) ≠ some .directory)
    (hfresh : ∀ b ∈ artifacts, b.place base ≠ a.place base) :
    ∃ after, writeArtifact root overwrite store a
        = (after, .ok (skips overwrite made (a.place base))) ∧
      Holds overwrite made base (artifacts ++ [a]) after := by
  have hsame : store.find? (a.place base) = made.find? (a.place base) :=
    h.unchanged _ fun b hb _ => hfresh b hb
  have hskips : skips overwrite store (a.place base) = skips overwrite made (a.place base) := by
    rw [skips, skips, hsame]
  have hwrite := writeArtifact_eq_ok_iff.2 ⟨a.place base, h.keeps.filePlace hplace,
    fun hover => hsame ▸ hdirectory hover, hskips.symm, rfl⟩
  refine ⟨_, hwrite, (keepsPlacesOf_writeArtifact hwrite).trans h.keeps, ?_, ?_⟩
  · intro b hb hkept
    rcases List.mem_append.1 hb with hb | hb
    · split
      · exact h.written b hb hkept
      · rw [Store.find?_put_of_ne store (hfresh b hb)]
        exact h.written b hb hkept
    · cases List.mem_singleton.1 hb
      rw [hkept, if_neg (by simp), Store.find?_put_self store (a.place_ne_nil base)]
  · intro p hp
    have hbefore := h.unchanged p fun b hb => hp b (List.mem_append_left _ hb)
    split
    · exact hbefore
    · next hkept =>
      have hne := hp a (by simp) (by simpa using hkept)
      rw [Store.find?_put_of_ne store (Ne.symm hne), hbefore]

/-- **Two stores that cannot be told apart.** -/
structure Store.Agrees (store other : Store) : Prop where
  cwd_eq : store.cwd = other.cwd
  find?_eq : ∀ p, store.find? p = other.find? p

/-- **The order of writing does not matter.** -/
theorem Holds.agrees {others : List Artifact} {other : Store}
    (h : Holds overwrite made base artifacts store) (h' : Holds overwrite made base others other)
    (hperm : artifacts.Perm others) : store.Agrees other where
  cwd_eq := h.keeps.cwd_eq.trans h'.keeps.cwd_eq.symm
  find?_eq p := by
    by_cases hp : ∃ a ∈ artifacts, skips overwrite made (a.place base) = false ∧ a.place base = p
    · obtain ⟨a, ha, hkept, rfl⟩ := hp
      rw [h.written a ha hkept, h'.written a (hperm.mem_iff.1 ha) hkept]
    · have hnone : ∀ a ∈ artifacts, skips overwrite made (a.place base) = false →
          a.place base ≠ p := fun a ha hkept heq => hp ⟨a, ha, hkept, heq⟩
      rw [h.unchanged p hnone, h'.unchanged p fun a ha => hnone a (hperm.mem_iff.2 ha)]

theorem Holds.readText {root : String} {a : Artifact}
    (h : Holds overwrite made base artifacts store) (hbase : made.IsBase root base)
    (ha : a ∈ artifacts) (hfile : IsScriptFile a.file)
    (hkept : skips overwrite made (a.place base) = false) :
    store.readText (joinPath root a.outputPath) = .ok a.source :=
  hbase.readText h.keeps hfile (h.written a ha hkept)

end Holds

/-! ### Savings -/

/-- **What the task of an artifact finds:** its path leads to a place once the directories are made,
and what is there was there before, or is a directory that has just been made. Where the root does
not lead upwards, it was there before; and if all entries lie in directories, it was there exactly
if the path led somewhere. -/
structure FindsPlace (root : String) (store made : Store) (a : Artifact) (p : Path) : Prop where
  leads : made.filePlace (joinPath root a.outputPath) = .ok p
  unchanged_or : made.find? p = store.find? p ∨
    store.find? p = none ∧ made.find? p = some .directory
  unchanged : ".." ∉ segments root → made.find? p = store.find? p
  existed : ".." ∉ segments root → store.IsTree → ((store.find? p).isSome = true ↔
    ∃ q, store.resolve (joinPath root a.outputPath) = .ok q)

theorem Store.IsBase.findsPlace {store made : Store} {root : String} {base : Path} {a : Artifact}
    (h : made.IsBase root base) (hfile : IsScriptFile a.file)
    (hmade : makeEach store [joinPath root "components", joinPath root "systems"]
      = (made, .ok ())) : FindsPlace root store made a (a.place base) := by
  have hadds : (makeEach store [joinPath root "components", joinPath root "systems"]).1
      |>.AddsDirectories store fun _ => True :=
    addsDirectories_makeEach {} fun _ _ _ _ _ _ _ => trivial
  rw [hmade] at hadds
  exact
    { leads := h.filePlace hfile
      unchanged_or := (hadds.unchanged_or _).imp_right And.right
      unchanged := fun hup => h.find?_place hup hfile hmade
      existed := fun hup htree => h.exists_resolve_iff hadds.cwd_eq htree hup hfile }

section Order
variable {output : Output} {root : String} {overwrite : Bool} {made : Store} {base : Path}

theorem Output.pick_append {i : ℕ} {a : Artifact} (ha : output.artifacts[i]? = some a)
    (written : List ℕ) : output.pick (written ++ [i]) = output.pick written ++ [a] := by
  simp [Output.pick, ha]

theorem place_ne_of_pick (hpaths : (output.artifacts.map Artifact.outputPath).Nodup)
    {written : List ℕ} {i : ℕ} {a : Artifact} (hi : i ∉ written)
    (ha : output.artifacts[i]? = some a) :
    ∀ b ∈ output.pick written, b.place base ≠ a.place base := by
  intro b hb heq
  obtain ⟨j, hj, hjb⟩ := List.mem_filterMap.1 hb
  have hpath : b.outputPath = a.outputPath := base.below_injective heq
  have hlt : j < (output.artifacts.map Artifact.outputPath).length := by
    rw [List.length_map]
    exact (List.getElem?_eq_some_iff.1 hjb).1
  have hji : j = i := (List.getElem?_inj hlt hpaths).1 (by simp [hjb, ha, hpath])
  exact hi (hji ▸ hj)

theorem exists_write_of_holds (hpaths : (output.artifacts.map Artifact.outputPath).Nodup)
    (hplace : ∀ a ∈ output.artifacts,
      made.filePlace (joinPath root a.outputPath) = .ok (a.place base))
    (hdirectory : ∀ a ∈ output.artifacts, overwrite = true →
      made.find? (a.place base) ≠ some .directory)
    (written : List ℕ) (store : Store) (i : ℕ) (a : Artifact)
    (h : Holds overwrite made base (output.pick written) store) (hi : i ∉ written)
    (ha : output.artifacts[i]? = some a) : ∃ after,
      writeArtifact root overwrite store a = (after, .ok (skips overwrite made (a.place base))) ∧
        Holds overwrite made base (output.pick (written ++ [i])) after := by
  have hmem := List.mem_of_getElem? ha
  rw [Output.pick_append ha]
  exact h.write (hplace a hmem) (hdirectory a hmem) (place_ne_of_pick hpaths hi ha)

/-- **A saving does not depend on the order of its tasks.** If the files of a source text have
different paths and can be saved in one order, they can be saved in every order, which comes to the
same files and the same counts. The files that are skipped are those that are found at their places,
unless files are to be overwritten; all others can be read afterwards. Every artifact is reported
once, skipped or not, and then the completion. -/
theorem save_agrees_in_any_order {config : Config} {source : String}
    (houtput : (compileSource config source).outcome = .ok output)
    (hpaths : (output.artifacts.map Artifact.outputPath).Nodup) {store : Store}
    {schedule : Schedule} (hvalid : schedule.Valid output.artifacts.length) {counts : Counts}
    (hok : (save output root overwrite schedule store).outcome = .ok counts) :
    ∃ (made : Store) (place : Artifact → Path),
      makeEach store [joinPath root "components", joinPath root "systems"] = (made, .ok ()) ∧
      (∀ a ∈ output.artifacts, FindsPlace root store made a (place a)) ∧
      counts.written + counts.skipped = output.artifacts.length ∧
      counts.skipped = output.artifacts.countP (fun a => skips overwrite made (place a)) ∧
      ∀ other : Schedule, other.Valid output.artifacts.length →
        ∀ saved, save output root overwrite other store = saved →
          saved.store.Agrees (save output root overwrite schedule store).store ∧
          saved.outcome = .ok counts ∧
          (∃ logs, saved.events = logs ++ [.completed output.projectName] ∧
            logs.Perm (output.artifacts.map fun a =>
              .ofArtifact a (skips overwrite made (place a)))) ∧
          ∀ a ∈ output.artifacts, skips overwrite made (place a) = false →
            saved.store.readText (joinPath root a.outputPath) = .ok a.source := by
  obtain ⟨made, _, hmade, hall⟩ := (exists_ok_save_iff hvalid root overwrite store).1 ⟨counts, hok⟩
  obtain ⟨base, hbase⟩ := Store.exists_isBase hmade
  have hfiles := isScriptFile_of_compileSource houtput
  have hplace : ∀ a ∈ output.artifacts,
      made.filePlace (joinPath root a.outputPath) = .ok (a.place base) := fun a ha =>
    hbase.filePlace (hfiles a ha)
  have hdirectory := hbase.ne_directory hfiles hvalid hall
  have hevery := fun (other : Schedule) (hother : other.Valid output.artifacts.length) =>
    save_of_tasks hmade (exists_write_of_holds hpaths hplace hdirectory)
      (holds_nil overwrite made base) hother
  obtain ⟨hholds, -, houtcome⟩ := hevery schedule hvalid
  rw [hok] at houtcome
  cases houtcome
  refine ⟨made, Artifact.place base, hmade, fun a ha => hbase.findsPlace (hfiles a ha) hmade, ?_,
    rfl, ?_⟩
  · have hcount := List.length_eq_countP_add_countP
      (fun a : Artifact => skips overwrite made (a.place base)) (l := output.artifacts)
    simp only [Bool.not_eq_true, Bool.decide_eq_false] at hcount
    dsimp only
    omega
  · rintro other hother saved rfl
    obtain ⟨hothers, hevents, houtcome⟩ := hevery other hother
    have hall := Output.pick_perm hother.writes
    exact ⟨hothers.agrees hholds (hall.trans (Output.pick_perm hvalid.writes).symm), houtcome,
      hevents, fun a ha hkept =>
        hothers.readText hbase (hall.mem_iff.2 ha) (hfiles a ha) hkept⟩

end Order

/-- A file of the reader's own where a component is to be written. -/
def scoutStore : Store where
  entries := .ofList [(["out"], .directory), (["out", "components"], .directory),
    (["out", "components", "body.js"], .file (.text "mine"))]

/-- A component and a system. -/
def scoutSource : String :=
  "project Scout\ncomponent Body \x7b x: 1 \x7d\nsystem Move \x7b components: [Body] \x7d\n"

theorem save_agrees_in_any_order_scout :
    scoutStore.IsTree ∧ ".." ∉ segments "out" ∧
    ∃ output, (compileSource {} scoutSource).outcome = .ok output ∧
      (output.artifacts.map Artifact.outputPath).Nodup ∧
      (Schedule.inOrder 3).Valid output.artifacts.length ∧
      (save output "out" false (Schedule.inOrder 3) scoutStore).outcome = .ok ⟨2, 1⟩ ∧
      ∀ other : Schedule, other.Valid output.artifacts.length →
        (save output "out" false other scoutStore).outcome = .ok ⟨2, 1⟩ ∧
        (save output "out" false other scoutStore).store.Agrees
          (save output "out" false (Schedule.inOrder 3) scoutStore).store := by
  obtain ⟨output, houtput, hfacts⟩ := Run.exists_ok_of_map_eq
    (show (compileSource {} scoutSource).outcome.toOption.map (fun output : Output =>
        decide ((output.artifacts.map Artifact.outputPath).Nodup ∧ output.artifacts.length = 3 ∧
          (save output "out" false (Schedule.inOrder 3) scoutStore).outcome.toOption
            = some ⟨2, 1⟩)) = some true by decide +kernel)
  obtain ⟨hpaths, hlength, hcounts⟩ := of_decide_eq_true hfacts
  have hok := eq_ok_of_toOption hcounts
  have hvalid : (Schedule.inOrder 3).Valid output.artifacts.length :=
    hlength ▸ Schedule.valid_inOrder 3
  obtain ⟨made, place, -, -, -, -, hevery⟩ := save_agrees_in_any_order houtput hpaths hvalid hok
  refine ⟨by decide, by decide, output, houtput, hpaths, hvalid, hok, fun other hother => ?_⟩
  obtain ⟨hstore, houtcome, -, -⟩ := hevery other hother _ rfl
  exact ⟨houtcome, hstore⟩

/-- **A root that leads upwards** can make a directory where an artifact is to go: the artifact is
skipped, although nothing was at its path. -/
theorem save_skips_missing_path :
    ∃ output, (compileSource {} "project P").outcome = .ok output ∧
      (output.artifacts.map Artifact.outputPath).Nodup ∧
      (Schedule.inOrder 1).Valid output.artifacts.length ∧
      (save output "out/factory.js/.." false (Schedule.inOrder 1) {}).outcome = .ok ⟨0, 1⟩ ∧
      ({} : Store).IsTree ∧
      (∀ p, ({} : Store).resolve (joinPath "out/factory.js/.." output.factory.outputPath)
        ≠ .ok p) ∧
      .ofArtifact output.factory true
        ∈ (save output "out/factory.js/.." false (Schedule.inOrder 1) {}).events := by
  obtain ⟨output, houtput, hfacts⟩ := Run.exists_ok_of_map_eq
    (show (compileSource {} "project P").outcome.toOption.map (fun output : Output =>
        decide ((output.artifacts.map Artifact.outputPath).Nodup ∧ output.artifacts.length = 1 ∧
          (save output "out/factory.js/.." false (Schedule.inOrder 1) {}).outcome.toOption
            = some ⟨0, 1⟩ ∧
          (({} : Store).resolve (joinPath "out/factory.js/.." output.factory.outputPath)).toOption
            = none ∧
          .ofArtifact output.factory true
            ∈ (save output "out/factory.js/.." false (Schedule.inOrder 1) {}).events)) = some true
      by decide +kernel)
  obtain ⟨hpaths, hlength, hcounts, hmissing, hskipped⟩ := of_decide_eq_true hfacts
  refine ⟨output, houtput, hpaths, hlength ▸ Schedule.valid_inOrder 1,
    eq_ok_of_toOption hcounts, by decide, fun p hp => ?_, hskipped⟩
  rw [hp] at hmissing
  cases hmissing

end EntityForge
