import EntityForge.Proofs.Build.FileNames
import EntityForge.Proofs.Save.Tasks
import EntityForge.Proofs.Store.Paths

/-! # Where artifacts go

Once the directories of a saving are made, the root leads to a directory, and the path of every
artifact leads to a place below it. Where the root has no upward segments, the directories that are
made lie above these places, so what is found there was there before.

* `Artifact.place`, `Store.IsBase`: the places of artifacts, and where the root leads to.
* `Store.exists_isBase`, `Store.IsBase.filePlace`: the root leads somewhere, and the paths lead to
  the places.
* `Store.IsBase.readText`: what is read at the path of an artifact.
* `Store.IsBase.find?_place`, `Store.IsBase.exists_resolve_iff`: without upward segments, making the
  directories changes nothing at the places. -/

namespace EntityForge

/-! ### Paths of artifacts -/

theorem IsScriptFile.isEntryName {file : String} (h : IsScriptFile file) : IsEntryName file := by
  have hne : ∀ s : String, ¬ ".js".toList <:+ s.toList → file ≠ s := by
    rintro s hs rfl
    exact hs h.extension
  exact ⟨hne _ (by decide), hne _ (by decide), hne _ (by decide)⟩

/-- The place of a path below another one. -/
def Path.below (base : Path) (path : String) : Path :=
  base ++ (segments path).map .text

theorem Path.below_injective (base : Path) : Function.Injective base.below := by
  intro s t h
  have hsegments := List.append_cancel_left h
  exact segments_injective (List.map_injective_iff.2 (fun _ _ => Octets.text.inj) hsegments)

namespace Artifact

/-- The directory of an artifact below the root. -/
def folder (a : Artifact) : List String :=
  match a.kind with
  | .component => ["components"]
  | .system _ => ["systems"]
  | .factory _ => []

/-- **The place of an artifact,** given where the root leads to. -/
def place (base : Path) (a : Artifact) : Path :=
  base.below a.outputPath

theorem place_ne_nil (base : Path) (a : Artifact) : a.place base ≠ [] := by
  simp [place, Path.below, segments, splitSlash_ne_nil]

theorem isEntryName_of_mem_folder {a : Artifact} : ∀ s ∈ a.folder, IsEntryName s := by
  unfold folder
  split <;> decide

section Paths
variable {a : Artifact} (hfile : IsScriptFile a.file)
include hfile

theorem segments_outputPath : segments a.outputPath = a.folder ++ [a.file] := by
  have hbelow : ∀ folder : String, '/' ∉ folder.toList →
      segments (folder ++ "/" ++ a.file) = [folder, a.file] := by
    intro folder hfolder
    simp [segments, splitSlash_append, splitSlash_of_not_mem hfolder,
      splitSlash_of_not_mem hfile.slash]
  unfold outputPath folder
  rcases a.kind with _ | base | creators
  · exact hbelow "components" (by decide)
  · exact hbelow "systems" (by decide)
  · exact segments_of_not_mem hfile.slash

theorem isAbsolute_outputPath : isAbsolute a.outputPath = false := by
  unfold outputPath
  rcases a.kind with _ | base | creators
  · simp [isAbsolute]
  · simp [isAbsolute]
  · exact isAbsolute_of_not_mem hfile.slash

theorem nul_not_mem_outputPath : Char.ofNat 0 ∉ a.outputPath.toList := by
  unfold outputPath
  rcases a.kind with _ | base | creators
  · simpa using hfile.nul
  · simpa using hfile.nul
  · exact hfile.nul

theorem outputPath_ne_empty : a.outputPath ≠ "" := by
  unfold outputPath
  rcases a.kind with _ | base | creators
  · simp
  · simp
  · exact hfile.isEntryName.1

theorem place_eq_append (base : Path) :
    a.place base = base ++ a.folder.map .text ++ [.text a.file] := by
  rw [place, Path.below, segments_outputPath hfile, List.map_append, List.append_assoc]
  rfl

theorem segments_below (root : String) : segments (joinPath root a.outputPath)
    = rootSegments root ++ a.folder ++ [a.file] := by
  rw [segments_joinPath root (isAbsolute_outputPath hfile), segments_outputPath hfile,
    List.append_assoc]

theorem nul_not_mem_below {root : String} (hroot : Char.ofNat 0 ∉ root.toList) :
    ¬ (joinPath root a.outputPath).toList.contains (Char.ofNat 0) = true := by
  have hnul := (nul_not_mem_joinPath_iff root (isAbsolute_outputPath hfile)).2
    ⟨hroot, nul_not_mem_outputPath hfile⟩
  simpa using hnul

theorem not_prefix_folder {name : String} (hname : name = "components" ∨ name = "systems") :
    ¬ (segments a.outputPath).map Octets.text <+: [.text name] := by
  intro h
  rw [segments_outputPath hfile] at h
  have hextension : ¬ IsScriptFile name := by
    rcases hname with rfl | rfl <;> decide
  have hlength := h.length_le
  rcases hfolder : a.folder with _ | ⟨s, rest⟩
  · rw [hfolder] at h
    have heq : a.file = name := by simpa using h
    exact hextension (heq ▸ hfile)
  · rw [hfolder] at hlength
    simp at hlength

end Paths

end Artifact

/-! ### Where the root leads to -/

namespace Store

variable {store made : Store} {root : String} {base : Path}

/-- **Where the root leads to** once the directories of a saving are made. -/
structure IsBase (made : Store) (root : String) (base : Path) : Prop where
  nul : Char.ofNat 0 ∉ root.toList
  walk : made.walk (made.origin root) (rootSegments root) = .ok base
  directory : made.find? base = some .directory
  components : made.find? (base ++ [.text "components"]) = some .directory
  systems : made.find? (base ++ [.text "systems"]) = some .directory

theorem exists_base_of_makeDirectories {name : String} (hname : IsEntryName name)
    (hslash : '/' ∉ name.toList)
    (h : store.makeDirectories (joinPath root name) = (made, .ok ())) :
    Char.ofNat 0 ∉ root.toList ∧ ∃ base,
      made.walk (made.origin root) (rootSegments root) = .ok base ∧
      made.find? base = some .directory ∧ made.find? (base ++ [.text name]) = some .directory := by
  have hrelative := isAbsolute_of_not_mem hslash
  have hsegments := segments_joinPath_of_not_mem root hslash
  have hnul : Char.ofNat 0 ∉ (joinPath root name).toList := by
    intro hmem
    rw [makeDirectories, if_pos (by simpa using hmem)] at h
    cases h
  have hextends := store.extends_makeDirectories (joinPath root name)
  rw [h] at hextends
  have horigin : store.origin (joinPath root name) = made.origin root := by
    rw [← hextends.keepsPlacesOf.origin, origin_joinPath made root hrelative]
  have hnamed : namedSegments (joinPath root name) ≠ [] := by
    intro hnil
    have hnames := entryNames_namedSegments (joinPath root name)
    rw [hnil, hsegments, entryNames_append, entryNames_cons, if_pos hname] at hnames
    simp [entryNames] at hnames
  obtain ⟨q, hnamedWalk, hq⟩ :=
    leadsToDirectory_iff.1 ((leadsToDirectory_of_makeDirectories h).resolve_left hnamed)
  have hwalk := walk_segments_of_named hq hnamedWalk
  rw [hsegments, horigin] at hwalk
  obtain ⟨base, hbase, hlast⟩ := walk_append_eq_ok_iff.1 hwalk
  obtain ⟨hdirectory, -, hend⟩ := walk_cons_eq_ok_iff.1 hlast
  rw [Path.step_of_isEntryName hname] at hend
  cases hend
  exact ⟨((nul_not_mem_joinPath_iff root hrelative).1 hnul).1, base, hbase, hdirectory, hq⟩

/-- **The root leads to a place** once the directories are made. -/
theorem exists_isBase
    (h : makeEach store [joinPath root "components", joinPath root "systems"] = (made, .ok ())) :
    ∃ base, made.IsBase root base := by
  simp only [makeEach] at h
  split at h
  · next first hfirst =>
    split at h
    · next last hlast =>
      cases h
      obtain ⟨hnul, base, hwalk, -, hcomponents⟩ :=
        exists_base_of_makeDirectories (by decide) (by decide) hfirst
      obtain ⟨-, other, hother, hdirectory, hsystems⟩ :=
        exists_base_of_makeDirectories (by decide) (by decide) hlast
      have hkeeps := first.extends_makeDirectories (joinPath root "systems")
      rw [hlast] at hkeeps
      have hsame := hkeeps.keepsPlacesOf.walk hwalk
      rw [← hkeeps.keepsPlacesOf.origin, hother] at hsame
      cases hsame
      exact ⟨base, hnul, hother, hdirectory, hkeeps.kept _ _ hcomponents, hsystems⟩
    · cases h
  · cases h

namespace IsBase

variable (h : made.IsBase root base) {a : Artifact}
include h

theorem walk_folder : made.walk (made.origin root) (rootSegments root ++ a.folder)
    = .ok (base ++ a.folder.map .text) ∧
      made.find? (base ++ a.folder.map .text) = some .directory := by
  have hone : ∀ name, IsEntryName name → made.find? (base ++ [.text name]) = some .directory →
      made.walk (made.origin root) (rootSegments root ++ [name]) = .ok (base ++ [.text name]) :=
    fun name hname hfind => walk_concat_of_isSome h.walk h.directory hname (by rw [hfind]; rfl)
  unfold Artifact.folder
  rcases a.kind with _ | system | creators
  · exact ⟨hone _ (by decide) h.components, h.components⟩
  · exact ⟨hone _ (by decide) h.systems, h.systems⟩
  · simpa using ⟨h.walk, h.directory⟩

/-- **The path of an artifact leads to its place.** -/
theorem filePlace (hfile : IsScriptFile a.file) :
    made.filePlace (joinPath root a.outputPath) = .ok (a.place base) := by
  obtain ⟨hwalk, hdirectory⟩ := h.walk_folder (a := a)
  have htarget : made.target (made.origin root) (rootSegments root ++ a.folder ++ [a.file])
      = .ok (some (a.place base)) := by
    refine target_concat_eq_ok_iff.2 ⟨_, hwalk, hdirectory, ?_⟩
    rw [if_neg (not_or.2 hfile.isEntryName.2), Artifact.place_eq_append hfile]
  unfold Store.filePlace
  rw [if_neg (Artifact.nul_not_mem_below hfile h.nul),
    if_neg (joinPath_ne_empty root (Artifact.outputPath_ne_empty hfile)),
    origin_joinPath made root (Artifact.isAbsolute_outputPath hfile),
    Artifact.segments_below hfile, htarget]

theorem readText {store : Store} (hkeeps : store.KeepsPlacesOf made) (hfile : IsScriptFile a.file)
    {text : String} (hfind : store.find? (a.place base) = some (.file (.text text))) :
    store.readText (joinPath root a.outputPath) = .ok text := by
  have hlast : (segments (joinPath root a.outputPath)).getLast? ≠ some "" := by
    rw [Artifact.segments_below hfile, List.getLast?_concat]
    simpa using hfile.isEntryName.1
  have hresolve := resolve_of_filePlace hlast (hkeeps.filePlace (h.filePlace hfile))
    (by rw [hfind]; rfl)
  rw [Store.readText, hresolve]
  simp [readAt, hfind]

theorem ne_directory {output : Output} {overwrite : Bool} {schedule : Schedule} {faults : Faults}
    {written : Store} (hfiles : ∀ a ∈ output.artifacts, IsScriptFile a.file)
    (hvalid : schedule.Valid output.artifacts.length)
    (hall : writeAll root overwrite made (output.tasks faults schedule.writes) = .ok written) :
    ∀ a ∈ output.artifacts, overwrite = true → made.find? (a.place base) ≠ some .directory := by
  rintro a ha rfl
  obtain ⟨t, ht, rfl⟩ := Output.exists_task hvalid.writes faults ha
  exact ne_directory_of_writeAll hall t ht _ (h.filePlace (hfiles t.1 ha))

theorem eq_append (hup : ".." ∉ segments root) :
    base = made.origin root ++ entryNames (rootSegments root) :=
  walk_eq_append (fun hmem => hup (rootSegments_subset root hmem)) h.walk

theorem prefix_of_target_below (hup : ".." ∉ segments root) {name : String}
    (hname : IsEntryName name) (hslash : '/' ∉ name.toList) {parts : List String}
    (hparts : parts <+: namedSegments (joinPath root name)) {s : Store} {p : Path}
    (htarget : s.target (made.origin (joinPath root name)) parts = .ok (some p)) :
    p <+: base ++ [.text name] := by
  have hsegments := segments_joinPath_of_not_mem root hslash
  have hupward : ".." ∉ segments (joinPath root name) := by
    rw [hsegments, List.mem_append, List.mem_singleton]
    exact not_or.2 ⟨fun hmem => hup (rootSegments_subset root hmem), Ne.symm hname.2.2⟩
  have hprefix := prefix_of_target hupward hparts htarget
  rw [hsegments, origin_joinPath made root (isAbsolute_of_not_mem hslash), entryNames_append,
    ← List.append_assoc, ← h.eq_append hup, entryNames_cons, if_pos hname] at hprefix
  exact hprefix

/-- **Without upward segments, no directory is made at the place of an artifact.** -/
theorem find?_place (hup : ".." ∉ segments root) (hfile : IsScriptFile a.file)
    (hmade : makeEach store [joinPath root "components", joinPath root "systems"]
      = (made, .ok ())) : made.find? (a.place base) = store.find? (a.place base) := by
  have hextends := extends_makeEach store [joinPath root "components", joinPath root "systems"]
  rw [hmade] at hextends
  have hkind : ∀ path ∈ [joinPath root "components", joinPath root "systems"], ∀ parts,
      parts <+: namedSegments path → ∀ (s : Store) p,
        s.target (store.origin path) parts = .ok (some p) →
          ∃ name, (name = "components" ∨ name = "systems") ∧ p <+: base ++ [.text name] := by
    intro path hpath parts hparts s p htarget
    rw [← hextends.keepsPlacesOf.origin] at htarget
    rcases List.mem_pair.1 hpath with rfl | rfl
    · exact ⟨_, .inl rfl, h.prefix_of_target_below hup (by decide) (by decide) hparts htarget⟩
    · exact ⟨_, .inr rfl, h.prefix_of_target_below hup (by decide) (by decide) hparts htarget⟩
  have hadds := addsDirectories_makeEach {} hkind
  rw [hmade] at hadds
  rcases hadds.unchanged_or (a.place base) with hsame | ⟨⟨name, hname, hprefix⟩, -⟩
  · exact hsame
  · rw [Artifact.place, Path.below, List.prefix_append_right_inj] at hprefix
    exact absurd hprefix (Artifact.not_prefix_folder hfile hname)

/-- **Something is at the place of an artifact** exactly if its path leads somewhere, in a store
whose entries lie in directories and without upward segments. -/
theorem exists_resolve_iff (hcwd : made.cwd = store.cwd) (htree : store.IsTree)
    (hup : ".." ∉ segments root) (hfile : IsScriptFile a.file) :
    (store.find? (a.place base)).isSome = true ↔
      ∃ p, store.resolve (joinPath root a.outputPath) = .ok p := by
  have horigin : made.origin root = store.origin root := by
    rw [origin, origin, hcwd]
  have hplace : a.place base
      = store.origin root ++ entryNames (rootSegments root ++ a.folder) ++ [.text a.file] := by
    rw [Artifact.place_eq_append hfile, h.eq_append hup, horigin, entryNames_append,
      entryNames_of_forall Artifact.isEntryName_of_mem_folder, List.append_assoc (store.origin _)]
  have hsegs : ".." ∉ rootSegments root ++ a.folder := by
    intro hmem
    rcases List.mem_append.1 hmem with hmem | hmem
    · exact hup (rootSegments_subset root hmem)
    · exact (Artifact.isEntryName_of_mem_folder _ hmem).2.2 rfl
  have hresolve : store.resolve (joinPath root a.outputPath)
      = store.walk (store.origin root) (rootSegments root ++ a.folder ++ [a.file]) := by
    unfold resolve
    rw [if_neg (Artifact.nul_not_mem_below hfile h.nul),
      if_neg (joinPath_ne_empty root (Artifact.outputPath_ne_empty hfile)),
      origin_joinPath store root (Artifact.isAbsolute_outputPath hfile),
      Artifact.segments_below hfile]
  rw [hresolve, hplace]
  constructor
  · intro hfound
    exact ⟨_, htree.walk_concat hsegs hfile.isEntryName hfound⟩
  · rintro ⟨p, hp⟩
    obtain ⟨q, hq, hlast⟩ := walk_append_eq_ok_iff.1 hp
    rw [← walk_eq_append hsegs hq]
    exact (walk_cons_eq_ok_iff.1 hlast).2.1 hfile.isEntryName

end IsBase

end Store

end EntityForge
