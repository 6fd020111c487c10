import EntityForge.Proofs.Store.Paths

/-! # Places and their texts

The names of a place need not be text, and then its text leads elsewhere or nowhere. But whatever is
found by walking along path texts has names that were read off them. So if the text of the current
directory leads back to it, the same is true of all places that are ever found, and to take a path
from one of them means to join it to the text of that place.

* `Base`, `Store.follow`: where a path leads, seen from a directory.
* `Store.Spells`: names that lead to a place from the root.
* `Store.Spells.step`, `Store.exists_spells_of_resolve`: what is found can be spelled.
* `Store.Spells.resolve_joinPath_iff`: a path below the text of a place is one seen from there. -/

namespace EntityForge

/-! ### Paths seen from a directory -/

/-- **The directory that paths are taken from,** given by a text or as a place. -/
inductive Base where
  | folder (text : String)
  | place (dir : Path)
  deriving DecidableEq, Repr

/-- **Where a path leads, seen from a directory.** From a place, its names are looked up as they
are, text or not. -/
def Store.follow (store : Store) : Base → String → Except OsError Path
  | .folder text, path => store.resolve (joinPath text path)
  | .place dir, path =>
    if path.toList.contains (Char.ofNat 0) then .error .invalidName
    else store.walk (if isAbsolute path then [] else dir) (segments path)

theorem Store.resolve_eq_ok_iff {store : Store} {path : String} {p : Path} :
    store.resolve path = .ok p ↔ Char.ofNat 0 ∉ path.toList ∧ path ≠ "" ∧
      store.walk (store.origin path) (segments path) = .ok p := by
  unfold Store.resolve
  by_cases hnul : Char.ofNat 0 ∈ path.toList
  · simp [hnul]
  · by_cases hempty : path = "" <;> simp [hnul, hempty]

/-- Every path has a segment, so it can only be walked from a directory. -/
theorem Store.directory_of_walk_segments {store : Store} {path : String} {place p : Path}
    (h : store.walk place (segments path) = .ok p) : store.find? place = some .directory := by
  obtain ⟨s, rest, hsegments⟩ := List.exists_cons_of_ne_nil (splitSlash_ne_nil path.toList)
  rw [segments, hsegments, List.map_cons] at h
  exact (Store.walk_cons_eq_ok_iff.1 h).1

theorem Store.follow_place_eq_ok_iff {store : Store} {dir : Path} {path : String} {p : Path} :
    store.follow (.place dir) path = .ok p ↔ Char.ofNat 0 ∉ path.toList ∧
      store.walk (if isAbsolute path then [] else dir) (segments path) = .ok p := by
  rw [Store.follow]
  by_cases hnul : Char.ofNat 0 ∈ path.toList <;> simp [hnul]

/-! ### Texts and their segments -/

/-- A text that may stand between two slashes of a path. -/
def IsSegment (s : String) : Prop :=
  '/' ∉ s.toList ∧ Char.ofNat 0 ∉ s.toList

theorem of_mem_splitSlash {cs part : List Char} (h : part ∈ splitSlash cs) :
    '/' ∉ part ∧ part ⊆ cs := by
  induction cs generalizing part with
  | nil =>
    obtain rfl := List.mem_singleton.1 h
    exact ⟨List.not_mem_nil, List.Subset.refl _⟩
  | cons c cs ih =>
    rw [splitSlash] at h
    split at h
    · rcases List.mem_cons.1 h with rfl | h
      · exact ⟨List.not_mem_nil, List.nil_subset _⟩
      · exact ⟨(ih h).1, List.subset_cons_of_subset c (ih h).2⟩
    · next hc =>
      obtain ⟨first, parts, hparts⟩ := List.exists_cons_of_ne_nil (splitSlash_ne_nil cs)
      rw [hparts] at h ih
      rcases List.mem_cons.1 h with rfl | h
      · obtain ⟨hslash, hsub⟩ := ih List.mem_cons_self
        exact ⟨List.not_mem_cons_of_ne_of_not_mem (Ne.symm hc) hslash,
          List.cons_subset_cons c hsub⟩
      · obtain ⟨hslash, hsub⟩ := ih (List.mem_cons_of_mem first h)
        exact ⟨hslash, List.subset_cons_of_subset c hsub⟩

theorem isSegment_of_mem_segments {path s : String} (hnul : Char.ofNat 0 ∉ path.toList)
    (h : s ∈ segments path) : IsSegment s := by
  obtain ⟨part, hpart, rfl⟩ := List.mem_map.1 h
  obtain ⟨hslash, hsub⟩ := of_mem_splitSlash hpart
  rw [IsSegment, String.toList_ofList]
  exact ⟨hslash, fun hmem => hnul (hsub hmem)⟩

theorem mem_intercalate_slash {c : Char} : ∀ {names : List String},
    c ∈ ("/".intercalate names).toList → c = '/' ∨ ∃ name ∈ names, c ∈ name.toList
  | [], h => by simp at h
  | [name], h => Or.inr ⟨name, List.mem_singleton_self name, by simpa using h⟩
  | name :: next :: names, h => by
    rw [String.intercalate_cons_cons, String.toList_append, String.toList_append,
      List.mem_append, List.mem_append] at h
    rcases h with (h | h) | h
    · exact Or.inr ⟨name, List.mem_cons_self, h⟩
    · exact Or.inl (by simpa using h)
    · rcases mem_intercalate_slash h with h | ⟨other, hother, h⟩
      · exact Or.inl h
      · exact Or.inr ⟨other, List.mem_cons_of_mem name hother, h⟩

theorem isAbsolute_text (p : Path) : isAbsolute p.text = true := by
  simp [isAbsolute, Path.text]

theorem mem_text {p : Path} {c : Char} (h : c ∈ p.text.toList) :
    c = '/' ∨ ∃ name ∈ p, c ∈ name.shown.toList := by
  rw [Path.text, String.toList_append, List.mem_append] at h
  rcases h with h | h
  · exact Or.inl (by simpa using h)
  · rcases mem_intercalate_slash h with h | ⟨shown, hshown, h⟩
    · exact Or.inl h
    · obtain ⟨name, hname, rfl⟩ := List.mem_map.1 hshown
      exact Or.inr ⟨name, hname, h⟩

theorem getLast?_segments_of_slash {path : String}
    (h : path = "" ∨ path.toList.getLast? = some '/') : (segments path).getLast? = some "" := by
  rcases h with rfl | h
  · rfl
  · obtain ⟨above, habove⟩ := List.getLast?_eq_some_iff.1 h
    simp [segments, habove, splitSlash_append, splitSlash]

theorem splitSlash_intercalate {parts : List (List Char)} (hne : parts ≠ [])
    (h : ∀ part ∈ parts, '/' ∉ part) : splitSlash (['/'].intercalate parts) = parts := by
  induction parts with
  | nil => exact absurd rfl hne
  | cons part parts ih =>
    obtain ⟨hpart, hparts⟩ := List.forall_mem_cons.1 h
    rcases parts with _ | ⟨next, parts⟩
    · rw [List.intercalate_singleton, splitSlash_of_not_mem hpart]
    · rw [List.intercalate_cons_cons, List.append_assoc, List.singleton_append, splitSlash_append,
        splitSlash_of_not_mem hpart, ih (List.cons_ne_nil _ _) hparts]
      rfl

namespace Store

variable {store : Store} {names : List String} {place p : Path}

/-! ### Places that can be spelled -/

/-- **Names that spell a place:** they are segments, and lead there from the root. -/
structure Spells (store : Store) (names : List String) (p : Path) : Prop where
  isSegment : ∀ s ∈ names, IsSegment s
  isEntryName : ∀ s ∈ names, IsEntryName s
  eq_map : p = names.map .text
  walk : store.walk [] names = .ok p

theorem spells_nil (store : Store) : store.Spells [] [] where
  isSegment := nofun
  isEntryName := nofun
  eq_map := rfl
  walk := rfl

theorem Spells.dropLast (h : store.Spells names p) : store.Spells names.dropLast p.dropLast := by
  rcases List.eq_nil_or_concat names with rfl | ⟨init, name, rfl⟩
  · rw [h.eq_map]
    exact spells_nil store
  · rw [List.concat_eq_append] at h ⊢
    obtain ⟨place, hwalk, -⟩ := walk_append_eq_ok_iff.1 h.walk
    have hname : ∀ s ∈ init, IsEntryName s := fun s hs =>
      h.isEntryName s (List.mem_append_left _ hs)
    have hplace : place = init.map .text := by
      rw [walk_eq_append (fun hup => (hname _ hup).2.2 rfl) hwalk, entryNames_of_forall hname]
      rfl
    rw [List.dropLast_concat, h.eq_map, List.map_append, List.map_singleton, List.dropLast_concat]
    exact ⟨fun s hs => h.isSegment s (List.mem_append_left _ hs), hname, rfl, hplace ▸ hwalk⟩

theorem Spells.directory_above (h : store.Spells names p) :
    store.find? p.dropLast = some .directory := by
  rcases List.eq_nil_or_concat names with rfl | ⟨init, name, rfl⟩
  · rw [h.eq_map]
    exact find?_nil store
  · rw [List.concat_eq_append] at h
    obtain ⟨place, hplace, hrest⟩ := walk_append_eq_ok_iff.1 h.walk
    have hwalk := h.dropLast.walk
    rw [List.dropLast_concat, hplace] at hwalk
    cases hwalk
    exact (walk_cons_eq_ok_iff.1 hrest).1

/-- **One segment further, the place can still be spelled.** -/
theorem Spells.step (h : store.Spells names place) {s : String} (hs : IsSegment s)
    (hplace : store.find? place = some .directory)
    (hfound : IsEntryName s → (store.find? (place ++ [.text s])).isSome = true) :
    ∃ names', store.Spells names' (place.step s) := by
  unfold Path.step
  split_ifs with hup hname
  · exact ⟨_, h.dropLast⟩
  · refine ⟨names ++ [s], ?_, ?_, ?_, walk_concat_of_isSome h.walk hplace hname (hfound hname)⟩
    · exact List.forall_mem_append.2 ⟨h.isSegment, List.forall_mem_singleton.2 hs⟩
    · exact List.forall_mem_append.2 ⟨h.isEntryName, List.forall_mem_singleton.2 hname⟩
    · rw [h.eq_map, List.map_append, List.map_singleton]
  · exact ⟨names, h⟩

theorem exists_spells_of_walk {segs : List String} (hsegs : ∀ s ∈ segs, IsSegment s)
    (hplace : ∃ names, store.Spells names place) (h : store.walk place segs = .ok p) :
    ∃ names, store.Spells names p := by
  induction segs generalizing place with
  | nil =>
    cases h
    exact hplace
  | cons s segs ih =>
    obtain ⟨hs, hsegs⟩ := List.forall_mem_cons.1 hsegs
    obtain ⟨names, hnames⟩ := hplace
    obtain ⟨hdirectory, hfound, hrest⟩ := walk_cons_eq_ok_iff.1 h
    exact ih hsegs (hnames.step hs hdirectory hfound) hrest

/-- **What a path text leads to can be spelled** if the place that it starts from can. -/
theorem exists_spells_of_resolve {path : String}
    (horigin : ∃ names, store.Spells names (store.origin path)) (h : store.resolve path = .ok p) :
    ∃ names, store.Spells names p := by
  obtain ⟨hnul, -, hwalk⟩ := resolve_eq_ok_iff.1 h
  exact exists_spells_of_walk (fun _ => isSegment_of_mem_segments hnul) horigin hwalk

/-! ### Texts of such places -/

theorem Spells.text_eq (h : store.Spells names p) : p.text = "/" ++ "/".intercalate names := by
  have hnames : p.map Octets.shown = names := by
    rw [h.eq_map, List.map_map]
    exact List.map_id names
  rw [Path.text, hnames]

theorem Spells.segments_text (h : store.Spells names p) :
    segments p.text = "" :: if names = [] then [""] else names := by
  have hsplit : segments p.text
      = "" :: (splitSlash (['/'].intercalate (names.map String.toList))).map String.ofList := by
    rw [h.text_eq, segments, String.toList_append, String.toList_intercalate]
    rfl
  rw [hsplit]
  split
  · next hnil =>
    rw [hnil]
    rfl
  · next hne =>
    have hslash : ∀ part ∈ names.map String.toList, '/' ∉ part := by
      intro part hpart
      obtain ⟨s, hs, rfl⟩ := List.mem_map.1 hpart
      exact (h.isSegment s hs).1
    rw [splitSlash_intercalate (by simpa using hne) hslash, List.map_map]
    simp

theorem Spells.rootSegments_text (h : store.Spells names p) :
    rootSegments p.text = "" :: names := by
  by_cases hnil : names = []
  · rw [h.text_eq, hnil]
    decide
  · have hsegments := h.segments_text
    rw [if_neg hnil] at hsegments
    have hend : ¬ (p.text = "" ∨ p.text.toList.getLast? = some '/') := by
      intro hend
      have hlast := getLast?_segments_of_slash hend
      rw [hsegments, List.getLast?_cons_of_ne_nil hnil] at hlast
      exact (h.isEntryName "" (List.mem_of_getLast? hlast)).1 rfl
    rw [rootSegments, if_neg hend, hsegments]

theorem Spells.nul_not_mem_text (h : store.Spells names p) :
    Char.ofNat 0 ∉ p.text.toList := by
  intro hmem
  rcases mem_text hmem with hslash | ⟨name, hname, hmem⟩
  · exact absurd hslash (by decide)
  · rw [h.eq_map] at hname
    obtain ⟨s, hs, rfl⟩ := List.mem_map.1 hname
    exact (h.isSegment s hs).2 hmem

/-- **To follow a path from a place is to join it to the text of the place.** -/
theorem Spells.resolve_joinPath_iff {dir : Path} (h : store.Spells names dir) {path : String} :
    store.resolve (joinPath dir.text path) = .ok p ↔ store.follow (.place dir) path = .ok p := by
  have habsolute := isAbsolute_joinPath (isAbsolute_text dir) path
  have hne : joinPath dir.text path ≠ "" := by
    intro hempty
    rw [hempty] at habsolute
    cases habsolute
  have horigin : store.origin (joinPath dir.text path) = [] := if_pos habsolute
  rw [resolve_eq_ok_iff, follow_place_eq_ok_iff, horigin]
  rcases hpath : isAbsolute path with _ | _
  · have hnul : Char.ofNat 0 ∉ (joinPath dir.text path).toList ↔ Char.ofNat 0 ∉ path.toList := by
      rw [nul_not_mem_joinPath_iff _ hpath, and_iff_right h.nul_not_mem_text]
    -- From the root, the names of the directory are walked first.
    have hwalk : store.walk [] (segments (joinPath dir.text path)) = .ok p ↔
        store.walk dir (segments path) = .ok p := by
      rw [segments_joinPath _ hpath, h.rootSegments_text, List.cons_append,
        walk_cons_of_stay (.inl rfl), and_iff_right (find?_nil store), walk_append_eq_ok_iff,
        h.walk]
      simp
    rw [hnul, hwalk, and_iff_right hne]
    rfl
  · rw [joinPath_of_isAbsolute _ hpath] at hne ⊢
    rw [and_iff_right hne]
    rfl

theorem Spells.follow_joinPath_iff {dir : Path} (h : store.Spells names dir)
    {folder path : String} :
    store.follow (.folder folder) (joinPath dir.text path) = .ok p ↔
      store.follow (.place dir) path = .ok p := by
  rw [← h.resolve_joinPath_iff, Store.follow,
    joinPath_of_isAbsolute folder (isAbsolute_joinPath (isAbsolute_text dir) path)]

end Store

end EntityForge
