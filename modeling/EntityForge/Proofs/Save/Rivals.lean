import EntityForge.Proofs.Save.Independence

/-! # Artifacts with the same path

Two artifacts can share a path, and then their tasks write the same file. Which of them is kept is
settled by the tasks themselves: without overwriting the first one to run creates the file and all
others skip it, and with overwriting the last one to run replaces it. The order of the artifacts has
no part in it, since the tasks may run in any order.

* `rivals`, `winner?`: the artifacts with a path, and the one that is kept.
* `find?_writeAll`: what is at a place after some tasks. `exists_ok_writeAll`: tasks succeed in
  every order.
* `Schedule.ofOrder`, `exists_order_winner`: every artifact is kept in some order.
* `save_settles_rivals`: a saving of artifacts that may share paths. -/

namespace EntityForge

/-! ### The artifact that is kept -/

/-- The artifacts with a path, in their order. -/
def rivals (artifacts : List Artifact) (path : String) : List Artifact :=
  artifacts.filter fun a => a.outputPath = path

/-- **The artifact that is kept** of those with one path, in the order in which their tasks run: the
first, or the last if files are overwritten. -/
def winner? (overwrite : Bool) (artifacts : List Artifact) (path : String) : Option Artifact :=
  if overwrite then (rivals artifacts path).getLast? else (rivals artifacts path).head?

/-- What a task writes. -/
def Artifact.entry (a : Artifact) : Entry :=
  .file (.text a.source)

/-- What is at a path after tasks, given what was there: with overwriting the artifact that is kept,
and without it what was there if there was anything. -/
def settled (overwrite : Bool) (before : Option Entry) (artifacts : List Artifact) (path : String) :
    Option Entry :=
  let written := (winner? overwrite artifacts path).map Artifact.entry
  if overwrite then written.or before else before.or written

section Settled
variable {overwrite : Bool} {before : Option Entry} {a : Artifact} {rest : List Artifact}
  {path : String}

theorem settled_nil : settled overwrite before [] path = before := by
  cases overwrite <;> simp [settled, winner?, rivals]

theorem settled_cons_of_ne (h : a.outputPath ≠ path) :
    settled overwrite before (a :: rest) path = settled overwrite before rest path := by
  simp [settled, winner?, rivals, h]

theorem settled_cons (h : a.outputPath = path) :
    settled overwrite before (a :: rest) path
      = settled overwrite (if !overwrite && before.isSome then before else some a.entry) rest
        path := by
  cases overwrite with
  | true => simp [settled, winner?, rivals, h, List.getLast?_cons]
  | false => rcases before with _ | e <;> simp [settled, winner?, rivals, h]

theorem settled_of_winner {w : Artifact} (hw : winner? overwrite rest path = some w)
    (hkept : (!overwrite && before.isSome) = false) :
    settled overwrite before rest path = some w.entry := by
  cases overwrite with
  | true => simp [settled, hw]
  | false =>
    have hnone : before = none := by simpa using hkept
    simp [settled, hw, hnone]

end Settled

/-! ### Tasks in any order -/

section Tasks
variable {root : String} {overwrite : Bool} {base : Path}

theorem find?_writeArtifact {store after : Store} {a : Artifact} {skipped : Bool}
    (hplace : store.filePlace (joinPath root a.outputPath) = .ok (a.place base))
    (h : writeArtifact root overwrite store a = (after, .ok skipped)) (path : String) :
    after.find? (base.below path)
      = settled overwrite (store.find? (base.below path)) [a] path := by
  obtain ⟨p, hp, -, hskipped, hafter⟩ := writeArtifact_eq_ok_iff.1 h
  rw [hplace] at hp
  cases hp
  subst hafter
  by_cases hpath : a.outputPath = path
  · have hsame : base.below path = a.place base := by rw [Artifact.place, hpath]
    rw [settled_cons hpath, settled_nil, hsame, hskipped, skips]
    split
    · rfl
    · exact Store.find?_put_self store (a.place_ne_nil base) _
  · have hne : base.below path ≠ a.place base := fun heq =>
      hpath (base.below_injective heq).symm
    rw [settled_cons_of_ne hpath, settled_nil]
    split
    · rfl
    · exact Store.find?_put_of_ne store hne _

theorem find?_writeAll {tasks : List (Artifact × Option WriteFault)} {store last : Store}
    (hplace : ∀ t ∈ tasks, store.filePlace (joinPath root t.1.outputPath) = .ok (t.1.place base))
    (h : writeAll root overwrite store tasks = .ok last) (path : String) :
    last.find? (base.below path)
      = settled overwrite (store.find? (base.below path)) (tasks.map Prod.fst) path := by
  induction tasks generalizing store with
  | nil =>
    cases h
    exact settled_nil.symm
  | cons task rest ih =>
    obtain ⟨a, fault⟩ := task
    obtain ⟨after, skipped, ha, hrest⟩ := writeAll_cons_eq_ok_iff.1 h
    obtain ⟨hfirst, hothers⟩ := List.forall_mem_cons.1 hplace
    have hkeeps := keepsPlacesOf_writeArtifact ha
    rw [ih (fun t ht => hkeeps.filePlace (hothers t ht)) hrest,
      find?_writeArtifact hfirst (writeArtifact_of_fault ha) path, List.map_cons]
    by_cases hpath : a.outputPath = path
    · rw [settled_cons hpath, settled_cons hpath, settled_nil]
    · rw [settled_cons_of_ne hpath, settled_cons_of_ne hpath, settled_nil]

/-- **Tasks succeed in every order** if paths lead to places, and to no directories that would have
to be overwritten. -/
theorem exists_ok_writeAll {tasks : List (Artifact × Option WriteFault)} {store : Store}
    (hsound : ∀ t ∈ tasks, t.2 = none)
    (hplace : ∀ t ∈ tasks, store.filePlace (joinPath root t.1.outputPath) = .ok (t.1.place base))
    (hdirectory : ∀ t ∈ tasks, overwrite = true →
      store.find? (t.1.place base) ≠ some .directory) :
    ∃ last, writeAll root overwrite store tasks = .ok last := by
  induction tasks generalizing store with
  | nil => exact ⟨store, rfl⟩
  | cons task rest ih =>
    obtain ⟨a, fault⟩ := task
    obtain ⟨rfl, hsounds⟩ := List.forall_mem_cons.1 hsound
    obtain ⟨hfirst, hothers⟩ := List.forall_mem_cons.1 hplace
    obtain ⟨hfree, hfrees⟩ := List.forall_mem_cons.1 hdirectory
    obtain ⟨after, skipped, ha⟩ : ∃ after skipped,
        writeArtifact root overwrite store a = (after, .ok skipped) :=
      ⟨_, _, writeArtifact_eq_ok_iff.2 ⟨_, hfirst, hfree, rfl, rfl⟩⟩
    have hkeeps := keepsPlacesOf_writeArtifact ha
    have hafter : ∀ t ∈ rest, overwrite = true →
        after.find? (t.1.place base) ≠ some .directory := by
      -- A task leaves a file, or what was there.
      intro t ht hover
      rw [Artifact.place, find?_writeArtifact hfirst ha]
      by_cases hpath : a.outputPath = t.1.outputPath
      · rw [settled_cons hpath, settled_nil, hover]
        simp [Artifact.entry]
      · rw [settled_cons_of_ne hpath, settled_nil]
        exact hfrees t ht hover
    obtain ⟨last, hlast⟩ := ih hsounds (fun t ht => hkeeps.filePlace (hothers t ht)) hafter
    exact ⟨last, writeAll_cons_eq_ok_iff.2 ⟨_, _, ha, hlast⟩⟩

end Tasks

/-! ### Orders -/

namespace Schedule

/-- All tasks in some order, and then their results in the same order. -/
def ofOrder (indices : List ℕ) : Schedule :=
  indices.map .write ++ indices.map .join

theorem writes_ofOrder (indices : List ℕ) : (ofOrder indices).writes = indices := by
  simp [ofOrder, writes, List.filterMap_append, List.filterMap_map]

theorem joins_ofOrder (indices : List ℕ) : (ofOrder indices).joins = indices := by
  simp [ofOrder, joins, List.filterMap_append, List.filterMap_map]

theorem valid_ofOrder {n : ℕ} {indices : List ℕ} (h : indices.Perm (List.range n)) :
    Valid n (ofOrder indices) where
  writes := by rwa [writes_ofOrder]
  joins := by rwa [joins_ofOrder]
  ordered before i after heq := by
    have hmem : i ∈ indices := by
      rw [← joins_ofOrder indices, mem_joins, heq]
      simp
    rcases List.append_eq_append_iff.1 heq with ⟨more, rfl, -⟩ | ⟨more, hwrites, hmore⟩
    · exact List.mem_append_left _ (List.mem_map_of_mem hmem)
    · -- Otherwise the result would be taken among the tasks.
      rcases more with _ | ⟨step, more⟩
      · rw [List.append_nil] at hwrites
        rw [← hwrites]
        exact List.mem_map_of_mem hmem
      · obtain ⟨rfl, -⟩ := List.cons.inj hmore
        have hjoin : Step.join i ∈ indices.map Step.write := by
          rw [hwrites]
          simp
        obtain ⟨_, -, hstep⟩ := List.mem_map.1 hjoin
        cases hstep

end Schedule

/-- **Every artifact is kept in some order.** -/
theorem exists_order_winner (output : Output) (overwrite : Bool) {w : Artifact}
    (hw : w ∈ output.artifacts) : ∃ schedule : Schedule,
      schedule.Valid output.artifacts.length ∧
      winner? overwrite (output.pick schedule.writes) w.outputPath = some w := by
  obtain ⟨i, hi⟩ := List.getElem?_of_mem hw
  have hlt : i < output.artifacts.length := (List.getElem?_eq_some_iff.1 hi).1
  have hfirst : (i :: (List.range output.artifacts.length).erase i).Perm
      (List.range output.artifacts.length) :=
    (List.perm_cons_erase (List.mem_range.2 hlt)).symm
  cases overwrite with
  | true =>
    have hlast := (List.perm_append_singleton i _).trans hfirst
    refine ⟨_, Schedule.valid_ofOrder hlast, ?_⟩
    rw [Schedule.writes_ofOrder, Output.pick_append hi]
    simp [winner?, rivals]
  | false =>
    refine ⟨_, Schedule.valid_ofOrder hfirst, ?_⟩
    rw [Schedule.writes_ofOrder, Output.pick_cons hi]
    simp [winner?, rivals]

theorem exists_winner {artifacts : List Artifact} {a : Artifact} (ha : a ∈ artifacts)
    (overwrite : Bool) : ∃ w, winner? overwrite artifacts a.outputPath = some w := by
  have hne : rivals artifacts a.outputPath ≠ [] :=
    List.ne_nil_of_mem (List.mem_filter.2 ⟨ha, decide_eq_true rfl⟩)
  cases overwrite with
  | true => exact ⟨_, List.getLast?_eq_some_getLast hne⟩
  | false => exact ⟨_, List.head?_eq_some_head hne⟩

theorem mem_of_winner {overwrite : Bool} {artifacts : List Artifact} {path : String} {w : Artifact}
    (h : winner? overwrite artifacts path = some w) : w ∈ rivals artifacts path := by
  cases overwrite with
  | true => exact List.mem_of_getLast? h
  | false => exact List.mem_of_head? h

/-! ### Savings -/

/-- **What is read at a path below the root after a saving.** -/
def savedText (output : Output) (root : String) (overwrite : Bool) (store : Store)
    (schedule : Schedule) (path : String) : Except OsError String :=
  (save output root overwrite schedule store).store.readText (joinPath root path)

section Saving
variable {output : Output} {root : String} {overwrite : Bool} {store made : Store} {base : Path}
  (hmade : makeEach store [joinPath root "components", joinPath root "systems"] = (made, .ok ()))
  (hbase : made.IsBase root base) (hfiles : ∀ a ∈ output.artifacts, IsScriptFile a.file)
  (hdirectory : ∀ a ∈ output.artifacts, overwrite = true →
    made.find? (a.place base) ≠ some .directory)
include hmade hbase hfiles hdirectory

theorem exists_ok_save {schedule : Schedule} (hvalid : schedule.Valid output.artifacts.length) :
    ∃ counts, (save output root overwrite schedule store).outcome = .ok counts := by
  have hmem : ∀ t ∈ output.tasks {} schedule.writes, t.1 ∈ output.artifacts ∧ t.2 = none :=
    fun t ht => Output.of_mem_tasks ht
  obtain ⟨last, hlast⟩ :
      ∃ last, writeAll root overwrite made (output.tasks {} schedule.writes) = .ok last :=
    exists_ok_writeAll (fun t ht => (hmem t ht).2)
      (fun t ht => hbase.filePlace (hfiles t.1 (hmem t ht).1)) fun t ht =>
      hdirectory t.1 (hmem t ht).1
  exact (exists_ok_save_iff hvalid root overwrite store).2 ⟨made, last, hmade, hlast⟩

variable {a : Artifact} (ha : a ∈ output.artifacts)
  (hkept : skips overwrite made (a.place base) = false)
include ha hkept

/-- **What is read at a path after a saving:** the text of the artifact that is kept. -/
theorem savedText_eq {schedule : Schedule} (hvalid : schedule.Valid output.artifacts.length)
    {w : Artifact} (hw : winner? overwrite (output.pick schedule.writes) a.outputPath = some w) :
    savedText output root overwrite store schedule a.outputPath = .ok w.source := by
  obtain ⟨counts, hok⟩ := exists_ok_save hmade hbase hfiles hdirectory hvalid
  have hsave : save output root overwrite schedule store
      = SaveState.run output root overwrite {} { store := made } schedule := by
    rw [save, hmade]
  unfold savedText
  rw [hsave] at hok ⊢
  have hall := (SaveState.carries_run_start made hvalid).writeAll_eq hok
  have hplace : ∀ t ∈ output.tasks {} schedule.writes,
      made.filePlace (joinPath root t.1.outputPath) = .ok (t.1.place base) := fun t ht =>
    hbase.filePlace (hfiles t.1 (Output.of_mem_tasks ht).1)
  refine hbase.readText (keepsPlacesOf_writeAll hall) (hfiles a ha) ?_
  rw [Artifact.place, find?_writeAll hplace hall, Output.map_fst_tasks]
  exact settled_of_winner hw hkept

theorem exists_savedText_eq {w : Artifact} (hw : w ∈ rivals output.artifacts a.outputPath) :
    ∃ schedule : Schedule, schedule.Valid output.artifacts.length ∧
      savedText output root overwrite store schedule a.outputPath = .ok w.source := by
  obtain ⟨hmem, hpath⟩ := List.mem_filter.1 hw
  obtain ⟨schedule, hvalid, hwins⟩ := exists_order_winner output overwrite hmem
  rw [of_decide_eq_true hpath] at hwins
  exact ⟨schedule, hvalid, savedText_eq hmade hbase hfiles hdirectory ha hkept hvalid hwins⟩

theorem forall_savedText_eq_iff (text : String) :
    (∀ schedule : Schedule, schedule.Valid output.artifacts.length →
      savedText output root overwrite store schedule a.outputPath = .ok text) ↔
      ∀ w ∈ rivals output.artifacts a.outputPath, w.source = text := by
  constructor
  · intro hall w hw
    obtain ⟨schedule, hvalid, hread⟩ :=
      exists_savedText_eq hmade hbase hfiles hdirectory ha hkept hw
    exact Except.ok.inj (hread.symm.trans (hall schedule hvalid))
  · intro hsame schedule hvalid
    have hperm := Output.pick_perm hvalid.writes
    obtain ⟨w, hw⟩ := exists_winner (hperm.mem_iff.2 ha) overwrite
    rw [savedText_eq hmade hbase hfiles hdirectory ha hkept hvalid hw,
      hsame w ((hperm.filter _).mem_iff.1 (mem_of_winner hw))]

end Saving

/-- **Artifacts with the same path are settled by the tasks.** If the files of a source text can be
saved in one order, they can be saved in every order, even if some share a path. Whatever is not
skipped then holds the text of the artifact whose task ran first, or last if files are overwritten.
So every artifact with the path is kept in some order, and the last one in the order of the
artifacts is kept in all orders only if the others hold the same text. -/
theorem save_settles_rivals {config : Config} {source : String} {output : Output}
    (houtput : (compileSource config source).outcome = .ok output) {root : String}
    {overwrite : Bool} {store : Store} {schedule : Schedule}
    (hvalid : schedule.Valid output.artifacts.length) {counts : Counts}
    (hok : (save output root overwrite schedule store).outcome = .ok counts) :
    ∃ (made : Store) (place : Artifact → Path),
      makeEach store [joinPath root "components", joinPath root "systems"] = (made, .ok ()) ∧
      (∀ a ∈ output.artifacts, FindsPlace root store made a (place a)) ∧
      (∀ other : Schedule, other.Valid output.artifacts.length →
        ∃ counts, (save output root overwrite other store).outcome = .ok counts) ∧
      ∀ a ∈ output.artifacts, skips overwrite made (place a) = false →
        (∀ other : Schedule, other.Valid output.artifacts.length →
          ∃ w, winner? overwrite (output.pick other.writes) a.outputPath = some w ∧
            savedText output root overwrite store other a.outputPath = .ok w.source) ∧
        (∀ w ∈ rivals output.artifacts a.outputPath, ∃ other : Schedule,
          other.Valid output.artifacts.length ∧
            savedText output root overwrite store other a.outputPath = .ok w.source) ∧
        ∀ z, (rivals output.artifacts a.outputPath).getLast? = some z →
          ((∀ other : Schedule, other.Valid output.artifacts.length →
            savedText output root overwrite store other a.outputPath = .ok z.source) ↔
            ∀ w ∈ rivals output.artifacts a.outputPath, w.source = z.source) := by
  obtain ⟨made, _, hmade, hall⟩ := (exists_ok_save_iff hvalid root overwrite store).1 ⟨counts, hok⟩
  obtain ⟨base, hbase⟩ := Store.exists_isBase hmade
  have hfiles := isScriptFile_of_compileSource houtput
  have hdirectory := hbase.ne_directory hfiles hvalid hall
  refine ⟨made, Artifact.place base, hmade, fun a ha => hbase.findsPlace (hfiles a ha) hmade,
    fun other hother => exists_ok_save hmade hbase hfiles hdirectory hother,
    fun a ha hkept => ⟨fun other hother => ?_, fun w hw =>
      exists_savedText_eq hmade hbase hfiles hdirectory ha hkept hw, fun z _ =>
      forall_savedText_eq_iff hmade hbase hfiles hdirectory ha hkept z.source⟩⟩
  obtain ⟨w, hw⟩ := exists_winner ((Output.pick_perm hother.writes).mem_iff.2 ha) overwrite
  exact ⟨w, hw, savedText_eq hmade hbase hfiles hdirectory ha hkept hother hw⟩

theorem FindsPlace.skips_eq_false {root : String} {store made : Store} {a : Artifact} {p : Path}
    (h : FindsPlace root store made a p) (hup : ".." ∉ segments root) (htree : store.IsTree)
    (hmissing : (store.resolve (joinPath root a.outputPath)).toOption = none) (overwrite : Bool) :
    skips overwrite made p = false := by
  have hnone : (made.find? p).isSome = false := by
    rw [h.unchanged hup, ← Bool.not_eq_true, h.existed hup htree]
    rintro ⟨q, hq⟩
    rw [hq] at hmissing
    cases hmissing
  rw [skips, hnone, Bool.and_false]

/-- Two components with one file. -/
def twinSource : String :=
  "project P component A \x7b\x7d component AComponent \x7b\x7d"

theorem save_settles_rivals_twins : ∃ output,
    (compileSource { lenient := true } twinSource).outcome = .ok output ∧
    (Schedule.inOrder 3).Valid output.artifacts.length ∧
    (rivals output.artifacts "components/a.js").map Artifact.name = ["A", "AComponent"] ∧
    ∀ overwrite : Bool,
      (save output "out" overwrite (Schedule.inOrder 3) {}).outcome.toOption
        = some (if overwrite then ⟨3, 0⟩ else ⟨2, 1⟩) ∧
      ∀ w ∈ rivals output.artifacts "components/a.js", ∃ other : Schedule,
        other.Valid output.artifacts.length ∧
          savedText output "out" overwrite {} other "components/a.js" = .ok w.source := by
  obtain ⟨output, houtput, hfacts⟩ := Run.exists_ok_of_map_eq
    (show (compileSource { lenient := true } twinSource).outcome.toOption.map
        (fun output : Output => decide (output.artifacts.length = 3 ∧
          (rivals output.artifacts "components/a.js").map Artifact.name = ["A", "AComponent"] ∧
          ∀ overwrite, (save output "out" overwrite (Schedule.inOrder 3) {}).outcome.toOption
            = some (if overwrite then ⟨3, 0⟩ else ⟨2, 1⟩))) = some true by decide +kernel)
  obtain ⟨hlength, hnames, hcounts⟩ := of_decide_eq_true hfacts
  have hvalid : (Schedule.inOrder 3).Valid output.artifacts.length :=
    hlength ▸ Schedule.valid_inOrder 3
  refine ⟨output, houtput, hvalid, hnames, fun overwrite => ⟨hcounts overwrite, fun w hw => ?_⟩⟩
  obtain ⟨made, place, -, hplaces, -, hsettled⟩ :=
    save_settles_rivals houtput hvalid (eq_ok_of_toOption (hcounts overwrite))
  obtain ⟨hmem, hpath⟩ := List.mem_filter.1 hw
  have hpath : w.outputPath = "components/a.js" := of_decide_eq_true hpath
  have hkept := (hplaces w hmem).skips_eq_false (by decide) (by decide)
    (by rw [hpath]; decide +kernel) overwrite
  obtain ⟨-, hchosen, -⟩ := hsettled w hmem hkept
  rw [hpath] at hchosen
  exact hchosen w hw

/-- **The later artifact need not win,** although the warning says so: without overwriting the order
of the artifacts leaves the text of the first one, and so does another order with overwriting. -/
theorem save_keeps_earlier_rival : ∃ output first last,
    (compileSource { lenient := true } twinSource).outcome = .ok output ∧
    output.warnings.map Warning.message
      = ["Component 'AComponent' and 'A' both generate 'a.js'; the later one wins"] ∧
    rivals output.artifacts "components/a.js" = [first, last] ∧ first.source ≠ last.source ∧
    (({} : Store).resolve "out/components/a.js").toOption = none ∧
    (Schedule.inOrder 3).Valid output.artifacts.length ∧
    (save output "out" false (Schedule.inOrder 3) {}).outcome = .ok ⟨2, 1⟩ ∧
    savedText output "out" false {} (Schedule.inOrder 3) "components/a.js" = .ok first.source ∧
    (Schedule.ofOrder [1, 0, 2]).Valid output.artifacts.length ∧
    (save output "out" true (Schedule.ofOrder [1, 0, 2]) {}).outcome = .ok ⟨3, 0⟩ ∧
    savedText output "out" true {} (Schedule.ofOrder [1, 0, 2]) "components/a.js"
      = .ok first.source := by
  obtain ⟨output, houtput, hfacts⟩ := Run.exists_ok_of_map_eq
    (show (compileSource { lenient := true } twinSource).outcome.toOption.map
        (fun output : Output => decide (output.artifacts.length = 3 ∧
          output.warnings.map Warning.message
            = ["Component 'AComponent' and 'A' both generate 'a.js'; the later one wins"] ∧
          (rivals output.artifacts "components/a.js").length = 2 ∧
          ((rivals output.artifacts "components/a.js").map Artifact.source).Nodup ∧
          (save output "out" false (Schedule.inOrder 3) {}).outcome.toOption = some ⟨2, 1⟩ ∧
          (savedText output "out" false {} (Schedule.inOrder 3) "components/a.js").toOption
            = (rivals output.artifacts "components/a.js").head?.map Artifact.source ∧
          (save output "out" true (Schedule.ofOrder [1, 0, 2]) {}).outcome.toOption
            = some ⟨3, 0⟩ ∧
          (savedText output "out" true {} (Schedule.ofOrder [1, 0, 2]) "components/a.js").toOption
            = (rivals output.artifacts "components/a.js").head?.map Artifact.source))
      = some true by decide +kernel)
  obtain ⟨hlength, hwarnings, htwo, hnodup, hfalse, hkept, htrue, hreplaced⟩ :=
    of_decide_eq_true hfacts
  obtain ⟨first, last, hrivals⟩ := List.length_eq_two.1 htwo
  rw [hrivals] at hnodup hkept hreplaced
  refine ⟨output, first, last, houtput, hwarnings, hrivals, by simpa using hnodup,
    by decide +kernel, hlength ▸ Schedule.valid_inOrder 3, eq_ok_of_toOption hfalse,
    eq_ok_of_toOption hkept, hlength ▸ Schedule.valid_ofOrder (by decide),
    eq_ok_of_toOption htrue, eq_ok_of_toOption hreplaced⟩

end EntityForge
