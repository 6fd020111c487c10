import EntityForge.Proofs.Store.Growth
import Mathlib.Data.List.Infix

/-! # Path texts and the places they lead to

The segments of a path text below a root are those of the root, followed by its own. Where no
segment leads upwards, a walk only appends names, so a place can be read off a path text; and in a
store whose entries all lie in directories, a path text leads to a place exactly if something is
there.

* `segments_injective`, `segments_joinPath`: the segments of path texts.
* `entryNames`: the names among segments.
* `Store.walk_segments_of_named`: empty segments and dots do not matter on the way to a directory.
* `Store.walk_eq_append`, `Store.prefix_of_target`: walks without upward segments.
* `Store.IsTree`, `Store.IsTree.walk_concat`: what is there can be walked to. -/

namespace EntityForge

/-! ### Segments -/

theorem splitSlash_append (xs ys : List Char) :
    splitSlash (xs ++ '/' :: ys) = splitSlash xs ++ splitSlash ys := by
  induction xs with
  | nil => simp [splitSlash]
  | cons c xs ih =>
    rw [List.cons_append, splitSlash, splitSlash, ih]
    split
    · rfl
    · obtain ⟨part, parts, hparts⟩ := List.exists_cons_of_ne_nil (splitSlash_ne_nil xs)
      rw [hparts]
      rfl

theorem splitSlash_of_not_mem {cs : List Char} (h : '/' ∉ cs) : splitSlash cs = [cs] := by
  induction cs with
  | nil => rfl
  | cons c cs ih =>
    obtain ⟨hc, hcs⟩ := not_or.1 (mt List.mem_cons.2 h)
    rw [splitSlash, if_neg (Ne.symm hc), ih hcs]

theorem intercalate_splitSlash (cs : List Char) : ['/'].intercalate (splitSlash cs) = cs := by
  induction cs with
  | nil => rfl
  | cons c cs ih =>
    obtain ⟨part, parts, hparts⟩ := List.exists_cons_of_ne_nil (splitSlash_ne_nil cs)
    rw [splitSlash, hparts]
    rw [hparts] at ih
    split
    · next hc => rw [List.intercalate_cons_cons, ih, hc]; rfl
    · rcases parts with _ | ⟨next, parts⟩
      · rw [List.intercalate_singleton] at ih ⊢
        rw [ih]
      · rw [List.intercalate_cons_cons] at ih ⊢
        rw [← ih]
        rfl

/-- **Different path texts have different segments.** -/
theorem segments_injective : Function.Injective segments := by
  intro s t h
  have hsplit : splitSlash s.toList = splitSlash t.toList :=
    List.map_injective_iff.2 (fun _ _ => String.ofList_injective) h
  rw [← String.toList_inj, ← intercalate_splitSlash s.toList, hsplit, intercalate_splitSlash]

theorem segments_of_not_mem {s : String} (h : '/' ∉ s.toList) : segments s = [s] := by
  rw [segments, splitSlash_of_not_mem h, List.map_singleton, String.ofList_toList]

/-- The segments that a root contributes to the paths below it. -/
def rootSegments (root : String) : List String :=
  if root = "" ∨ root.toList.getLast? = some '/' then (segments root).dropLast else segments root

theorem rootSegments_subset (root : String) : rootSegments root ⊆ segments root := by
  unfold rootSegments
  split
  · exact List.dropLast_subset _
  · exact List.Subset.refl _

theorem segments_joinPath (root : String) {path : String} (h : isAbsolute path = false) :
    segments (joinPath root path) = rootSegments root ++ segments path := by
  unfold joinPath rootSegments
  rw [h, if_neg (by simp)]
  split
  · next hend =>
    rcases hend with rfl | hend
    · simp [segments, splitSlash]
    · obtain ⟨above, habove⟩ := List.getLast?_eq_some_iff.1 hend
      have hroot : segments root = (splitSlash above).map String.ofList ++ [""] := by
        simp [segments, habove, splitSlash_append, splitSlash]
      rw [hroot, List.dropLast_concat]
      simp [segments, habove, splitSlash_append]
  · simp [segments, splitSlash_append]

theorem joinPath_of_isAbsolute (base : String) {path : String} (h : isAbsolute path = true) :
    joinPath base path = path :=
  if_pos h

theorem mem_joinPath {base path : String} {c : Char} (h : c ∈ (joinPath base path).toList) :
    c ∈ base.toList ∨ c = '/' ∨ c ∈ path.toList := by
  unfold joinPath at h
  split_ifs at h
  · exact Or.inr (Or.inr h)
  · rw [String.toList_append, List.mem_append] at h
    exact h.imp_right Or.inr
  · simpa [or_assoc] using h

theorem isAbsolute_joinPath {base : String} (h : isAbsolute base = true) (path : String) :
    isAbsolute (joinPath base path) = true := by
  obtain ⟨rest, hbase⟩ := List.head?_eq_some_iff.1 (of_decide_eq_true h)
  unfold joinPath
  split_ifs with habs
  · exact habs
  · simp [isAbsolute, hbase]
  · simp [isAbsolute, hbase]

theorem isAbsolute_of_not_mem {s : String} (h : '/' ∉ s.toList) : isAbsolute s = false := by
  have hhead : s.toList.head? ≠ some '/' := fun hhead => h (List.mem_of_mem_head? hhead)
  simpa [isAbsolute] using hhead

theorem segments_joinPath_of_not_mem (root : String) {name : String} (h : '/' ∉ name.toList) :
    segments (joinPath root name) = rootSegments root ++ [name] := by
  rw [segments_joinPath root (isAbsolute_of_not_mem h), segments_of_not_mem h]

theorem isAbsolute_joinPath_of_relative (root : String) {path : String}
    (h : isAbsolute path = false) : isAbsolute (joinPath root path) = isAbsolute root := by
  have hpath : path.toList.head? ≠ some '/' := by simpa [isAbsolute] using h
  unfold joinPath
  rw [h, if_neg (by simp)]
  rcases hroot : root.toList with _ | ⟨c, cs⟩
  · have hempty : root = "" := String.toList_eq_nil_iff.1 hroot
    simp [hempty, isAbsolute, hpath]
  · split <;> simp [isAbsolute, hroot]

theorem nul_not_mem_joinPath_iff (root : String) {path : String} (h : isAbsolute path = false) :
    Char.ofNat 0 ∉ (joinPath root path).toList ↔
      Char.ofNat 0 ∉ root.toList ∧ Char.ofNat 0 ∉ path.toList := by
  unfold joinPath
  rw [h, if_neg (by simp)]
  split
  · simp
  · simp

theorem joinPath_ne_empty (root : String) {path : String} (h : path ≠ "") :
    joinPath root path ≠ "" := by
  unfold joinPath
  split_ifs <;> simp [h]

/-! ### Names among segments -/

/-- The names among segments. -/
def entryNames (segs : List String) : Path :=
  (segs.filter fun s => IsEntryName s).map .text

theorem entryNames_cons (s : String) (segs : List String) :
    entryNames (s :: segs)
      = if IsEntryName s then .text s :: entryNames segs else entryNames segs := by
  unfold entryNames
  split
  · next hs => rw [List.filter_cons_of_pos (by simpa using hs), List.map_cons]
  · next hs => rw [List.filter_cons_of_neg (by simpa using hs)]

theorem entryNames_of_forall {segs : List String} (h : ∀ s ∈ segs, IsEntryName s) :
    entryNames segs = segs.map .text := by
  rw [entryNames, List.filter_eq_self.2 fun s hs => decide_eq_true (h s hs)]

theorem entryNames_append (xs ys : List String) :
    entryNames (xs ++ ys) = entryNames xs ++ entryNames ys := by
  unfold entryNames
  rw [List.filter_append, List.map_append]

theorem entryNames_namedSegments (path : String) :
    entryNames (namedSegments path) = entryNames (segments path) := by
  have hnamed : entryNames ((segments path).filter fun s => s ≠ "" ∧ s ≠ ".")
      = entryNames (segments path) := by
    unfold entryNames
    rw [List.filter_filter]
    congr 1
    refine List.filter_congr fun s _ => ?_
    unfold IsEntryName
    by_cases h : s = "" <;> by_cases h' : s = "." <;> simp [h, h']
  unfold namedSegments
  dsimp only
  split
  · rw [entryNames_cons, if_neg (by decide), hnamed]
  · exact hnamed

namespace Store

variable {store : Store} {start place p : Path}

theorem origin_joinPath (store : Store) (root : String) {path : String}
    (h : isAbsolute path = false) : store.origin (joinPath root path) = store.origin root := by
  unfold origin
  rw [isAbsolute_joinPath_of_relative root h]

/-! ### Segments that name nothing -/

theorem directory_of_walk {segs : List String} (h : store.walk start segs = .ok p)
    (hp : store.find? p = some .directory) : store.find? start = some .directory := by
  rcases segs with _ | ⟨s, segs⟩
  · cases h
    exact hp
  · exact (walk_cons_eq_ok_iff.1 h).1

theorem walk_cons_of_stay {s : String} (hs : s = "" ∨ s = ".") {segs : List String} :
    store.walk start (s :: segs) = .ok p ↔
      store.find? start = some .directory ∧ store.walk start segs = .ok p := by
  have hname : ¬ IsEntryName s := fun h => hs.elim h.1 h.2.1
  have hstep : start.step s = start := by
    rw [Path.step, if_neg, if_neg hname]
    rintro rfl
    revert hs
    decide
  rw [walk_cons_eq_ok_iff, hstep]
  simp [hname]

theorem walk_of_filter {segs : List String} (hp : store.find? p = some .directory)
    (h : store.walk start (segs.filter fun s => s ≠ "" ∧ s ≠ ".") = .ok p) :
    store.walk start segs = .ok p := by
  induction segs generalizing start with
  | nil => exact h
  | cons s segs ih =>
    by_cases hs : s ≠ "" ∧ s ≠ "."
    · rw [List.filter_cons_of_pos (by simpa using hs)] at h
      obtain ⟨hstart, hname, hrest⟩ := walk_cons_eq_ok_iff.1 h
      exact walk_cons_eq_ok_iff.2 ⟨hstart, hname, ih hrest⟩
    · rw [List.filter_cons_of_neg (by simpa using hs)] at h
      have hstay : s = "" ∨ s = "." := by
        by_contra hboth
        exact hs (not_or.1 hboth)
      exact (walk_cons_of_stay hstay).2 ⟨directory_of_walk h hp, ih h⟩

/-- **Segments that name nothing do not matter** on the way to a directory. -/
theorem walk_segments_of_named {path : String} (hp : store.find? p = some .directory)
    (h : store.walk start (namedSegments path) = .ok p) :
    store.walk start (segments path) = .ok p := by
  unfold namedSegments at h
  dsimp only at h
  split at h
  · exact walk_of_filter hp ((walk_cons_of_stay (.inr rfl)).1 h).2
  · exact walk_of_filter hp h

theorem resolve_of_filePlace {path : String} (hlast : (segments path).getLast? ≠ some "")
    (h : store.filePlace path = .ok p) (hp : (store.find? p).isSome = true) :
    store.resolve path = .ok p := by
  unfold filePlace at h
  unfold resolve
  split_ifs at h ⊢
  rcases htarget : store.target (store.origin path) (segments path) with e | _ | q
  · rw [htarget] at h
    cases h
  · rw [htarget] at h
    cases h
  · rw [htarget] at h
    cases h
    rcases List.eq_nil_or_concat (segments path) with hnil | ⟨init, name, hsegments⟩
    · rw [hnil] at htarget
      cases htarget
    · rw [hsegments, List.concat_eq_append] at htarget hlast ⊢
      obtain ⟨place, hwalk, hplace, hq⟩ := target_concat_eq_ok_iff.1 htarget
      split_ifs at hq with hdots
      cases hq
      have hname : IsEntryName name := ⟨by simpa using hlast, not_or.1 hdots⟩
      exact walk_concat_of_isSome hwalk hplace hname hp

/-! ### Walks without upward segments -/

/-- **Without upward segments, a walk appends names.** -/
theorem walk_eq_append {segs : List String} (hup : ".." ∉ segs)
    (h : store.walk start segs = .ok p) : p = start ++ entryNames segs := by
  induction segs generalizing start with
  | nil =>
    cases h
    simp [entryNames]
  | cons s segs ih =>
    obtain ⟨hs, hsegs⟩ := not_or.1 (mt List.mem_cons.2 hup)
    obtain ⟨-, -, hrest⟩ := walk_cons_eq_ok_iff.1 h
    rw [ih hsegs hrest, entryNames_cons, Path.step, if_neg (Ne.symm hs)]
    split
    · rw [List.append_assoc, List.singleton_append]
    · rfl

theorem mem_segments_of_mem_namedSegments {path s : String} (h : s ∈ namedSegments path) :
    s ∈ segments path := by
  unfold namedSegments at h
  dsimp only at h
  split at h
  · next hdot =>
    rcases List.mem_cons.1 h with rfl | h
    · exact List.mem_of_mem_head? hdot
    · exact List.mem_of_mem_filter h
  · exact List.mem_of_mem_filter h

theorem prefix_of_target {path : String} (hup : ".." ∉ segments path) {parts : List String}
    (hparts : parts <+: namedSegments path) (h : store.target start parts = .ok (some p)) :
    p <+: start ++ entryNames (segments path) := by
  have hmem : ∀ s ∈ parts, s ≠ "" ∧ s ≠ ".." := fun s hs =>
    have hnamed := hparts.subset hs
    ⟨ne_empty_of_mem_namedSegments hnamed,
      fun h => hup (h ▸ mem_segments_of_mem_namedSegments hnamed)⟩
  rcases List.eq_nil_or_concat parts with rfl | ⟨init, name, rfl⟩
  · cases h
  · rw [List.concat_eq_append] at hparts hmem h
    obtain ⟨place, hwalk, -, hp⟩ := target_concat_eq_ok_iff.1 h
    split_ifs at hp with hdots
    cases hp
    have hinit : ".." ∉ init := fun hs => (hmem _ (List.mem_append_left _ hs)).2 rfl
    have hname : IsEntryName name :=
      ⟨(hmem name (by simp)).1, fun h => hdots (.inl h), fun h => hdots (.inr h)⟩
    have hplace : place ++ [.text name] = start ++ entryNames (init ++ [name]) := by
      rw [walk_eq_append hinit hwalk, entryNames_append, List.append_assoc, entryNames_cons,
        if_pos hname]
      rfl
    rw [hplace, ← entryNames_namedSegments, List.prefix_append_right_inj]
    exact (hparts.filter _).map _

/-! ### Stores whose entries lie in directories -/

/-- **Every entry lies in a directory.** -/
def IsTree (store : Store) : Prop :=
  ∀ p ∈ store.entries.keys, store.find? p.dropLast = some .directory

instance (store : Store) : Decidable store.IsTree :=
  inferInstanceAs (Decidable (∀ p ∈ _, _))

section IsTree
variable (htree : store.IsTree)
include htree

theorem IsTree.directory_above (hp : p ≠ []) (h : (store.find? p).isSome = true) :
    store.find? p.dropLast = some .directory := by
  rw [find?, if_neg hp, Table.isSome_find?_iff] at h
  exact htree p h

theorem IsTree.directory_of_append {q : Path} (hq : q ≠ [])
    (h : (store.find? (p ++ q)).isSome = true) : store.find? p = some .directory := by
  induction q using List.reverseRecOn with
  | nil => exact absurd rfl hq
  | append_singleton q name ih =>
    have habove := htree.directory_above (by simp) h
    rw [← List.append_assoc, List.dropLast_concat] at habove
    by_cases hq : q = []
    · rwa [hq, List.append_nil] at habove
    · exact ih hq (by rw [habove]; rfl)

/-- **What is there can be walked to.** -/
theorem IsTree.walk_concat {segs : List String} {name : String} (hup : ".." ∉ segs)
    (hname : IsEntryName name)
    (h : (store.find? (start ++ entryNames segs ++ [.text name])).isSome = true) :
    store.walk start (segs ++ [name]) = .ok (start ++ entryNames segs ++ [.text name]) := by
  induction segs generalizing start with
  | nil =>
    have hnil : start ++ entryNames [] = start := List.append_nil start
    rw [hnil] at h ⊢
    exact walk_concat_of_isSome rfl (htree.directory_of_append (List.cons_ne_nil _ _) h) hname h
  | cons s segs ih =>
    obtain ⟨hs, hsegs⟩ := not_or.1 (mt List.mem_cons.2 hup)
    have hstart : store.find? start = some .directory := by
      rw [List.append_assoc] at h
      exact htree.directory_of_append (by simp) h
    rw [List.cons_append]
    by_cases hs' : IsEntryName s
    · rw [entryNames_cons, if_pos hs', List.append_cons start] at h ⊢
      refine walk_cons_eq_ok_iff.2 ⟨hstart, fun _ => ?_, ?_⟩
      · rw [List.append_assoc] at h
        rw [htree.directory_of_append (by simp) h]
        rfl
      · rw [Path.step_of_isEntryName hs']
        exact ih hsegs h
    · rw [entryNames_cons, if_neg hs'] at h ⊢
      have hstay : s = "" ∨ s = "." := by
        by_contra hboth
        obtain ⟨hempty, hdot⟩ := not_or.1 hboth
        exact hs' ⟨hempty, hdot, Ne.symm hs⟩
      exact (walk_cons_of_stay hstay).2 ⟨hstart, ih hsegs h⟩

end IsTree

end Store

end EntityForge
