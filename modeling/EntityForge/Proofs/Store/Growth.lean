import EntityForge.Store.Basic
import Mathlib.Data.List.Basic

/-! # Stores that grow

A store may change in ways that leave path texts as they are: entries are added, and files are
replaced by files. Whatever a path text leads to, it leads to the same place afterwards. A directory
that has been made with all directories above it is still there, so making it again does nothing.

* `Store.KeepsPlacesOf`: every entry is still there, and directories are directories.
* `Store.Extends`: every entry is still the same.
* `Store.AddsDirectories`: the same, and all new entries are directories at places of some kind.
* `Store.walk_cons_eq_ok_iff`, `Store.target_concat_eq_ok_iff`, `Store.makeDirectory_eq_ok_iff`:
  what the walks and changes need.
* `Store.KeepsPlacesOf.filePlace`, `Store.Extends.readText`: what leads somewhere still does.
* `Store.addsDirectories_makeDirectories`: making directories adds directories.
* `Store.makeDirectories_again`: making them again adds none. -/

namespace EntityForge

/-- A segment that names an entry of the directory it is looked up in. -/
def IsEntryName (s : String) : Prop :=
  s ≠ "" ∧ s ≠ "." ∧ s ≠ ".."

instance (s : String) : Decidable (IsEntryName s) :=
  inferInstanceAs (Decidable (_ ∧ _))

/-- The place that one segment leads to. -/
def Path.step (place : Path) (s : String) : Path :=
  if s = ".." then place.dropLast else if IsEntryName s then place ++ [.text s] else place

theorem Path.step_of_isEntryName {s : String} (h : IsEntryName s) (place : Path) :
    place.step s = place ++ [.text s] := by
  rw [Path.step, if_neg h.2.2, if_pos h]

namespace Store

variable {store later last made : Store}

/-! ### Later stores -/

/-- **What was there is still there,** and directories are still directories. -/
structure KeepsPlacesOf (later store : Store) : Prop where
  cwd_eq : later.cwd = store.cwd
  isSome : ∀ p, (store.find? p).isSome = true → (later.find? p).isSome = true
  directory : ∀ p, store.find? p = some .directory → later.find? p = some .directory

/-- **What was there has not changed.** -/
structure Extends (later store : Store) : Prop where
  cwd_eq : later.cwd = store.cwd
  kept : ∀ p e, store.find? p = some e → later.find? p = some e

/-- **What was there has not changed, and what is new is a directory** at a place of a given
kind. -/
structure AddsDirectories (made store : Store) (kind : Path → Prop) : Prop where
  cwd_eq : made.cwd = store.cwd
  unchanged_or : ∀ p, made.find? p = store.find? p ∨
    kind p ∧ store.find? p = none ∧ made.find? p = some .directory

theorem KeepsPlacesOf.trans (h : last.KeepsPlacesOf later) (h' : later.KeepsPlacesOf store) :
    last.KeepsPlacesOf store where
  cwd_eq := h.cwd_eq.trans h'.cwd_eq
  isSome p hp := h.isSome p (h'.isSome p hp)
  directory p hp := h.directory p (h'.directory p hp)

theorem Extends.refl (store : Store) : store.Extends store :=
  ⟨rfl, fun _ _ => id⟩

theorem Extends.trans (h : last.Extends later) (h' : later.Extends store) : last.Extends store where
  cwd_eq := h.cwd_eq.trans h'.cwd_eq
  kept p e hp := h.kept p e (h'.kept p e hp)

theorem Extends.keepsPlacesOf (h : later.Extends store) : later.KeepsPlacesOf store where
  cwd_eq := h.cwd_eq
  isSome p hp := by
    obtain ⟨e, he⟩ := Option.isSome_iff_exists.1 hp
    rw [h.kept p e he]
    rfl
  directory p := h.kept p .directory

section AddsDirectories
variable {kind : Path → Prop}

theorem AddsDirectories.refl (store : Store) (kind : Path → Prop) :
    store.AddsDirectories store kind :=
  ⟨rfl, fun _ => .inl rfl⟩

theorem AddsDirectories.extends (h : made.AddsDirectories store kind) : made.Extends store where
  cwd_eq := h.cwd_eq
  kept p e hp := by
    rcases h.unchanged_or p with hsame | ⟨-, hnone, -⟩
    · rw [hsame, hp]
    · rw [hnone] at hp
      cases hp

theorem AddsDirectories.trans (h : last.AddsDirectories made kind)
    (h' : made.AddsDirectories store kind) : last.AddsDirectories store kind where
  cwd_eq := h.cwd_eq.trans h'.cwd_eq
  unchanged_or p := by
    rcases h.unchanged_or p with hsame | ⟨hkind, hnone, hlast⟩
    · rw [hsame]
      exact h'.unchanged_or p
    · rcases h'.unchanged_or p with hsame' | ⟨-, -, hmade⟩
      · exact .inr ⟨hkind, hsame' ▸ hnone, hlast⟩
      · rw [hmade] at hnone
        cases hnone

end AddsDirectories

/-! ### One entry more -/

theorem find?_nil (store : Store) : store.find? [] = some .directory :=
  if_pos rfl

theorem cwd_put (store : Store) (p : Path) (e : Entry) : (store.put p e).cwd = store.cwd := by
  unfold put
  split <;> rfl

theorem find?_put {p : Path} (hp : p ≠ []) (e : Entry) (q : Path) :
    (store.put p e).find? q = if q = p then some e else store.find? q := by
  split
  · next h => rw [h, find?_put_self store hp]
  · next h => exact find?_put_of_ne store h e

theorem ne_nil_of_find?_ne_directory {p : Path} (h : store.find? p ≠ some .directory) : p ≠ [] := by
  rintro rfl
  exact h (find?_nil store)

theorem extends_put {p : Path} (h : store.find? p = none) (e : Entry) :
    (store.put p e).Extends store where
  cwd_eq := cwd_put store p e
  kept q e' hq := by
    have hne : q ≠ p := by
      rintro rfl
      rw [h] at hq
      cases hq
    rw [find?_put_of_ne store hne, hq]

theorem keepsPlacesOf_put {p : Path} (h : store.find? p ≠ some .directory) (e : Entry) :
    (store.put p e).KeepsPlacesOf store where
  cwd_eq := cwd_put store p e
  isSome q hq := by
    rw [find?_put (ne_nil_of_find?_ne_directory h)]
    split
    · rfl
    · exact hq
  directory q hq := by
    have hne : q ≠ p := by
      rintro rfl
      exact h hq
    rw [find?_put_of_ne store hne, hq]

/-! ### Walks -/

theorem isDirectory_iff {p : Path} : store.isDirectory p = true ↔ store.find? p = some .directory :=
  decide_eq_true_iff

/-- **One step of a walk** starts in a directory, and a name has to be found there. -/
theorem walk_cons_eq_ok_iff {place p : Path} {s : String} {rest : List String} :
    store.walk place (s :: rest) = .ok p ↔ store.find? place = some .directory ∧
      (IsEntryName s → (store.find? (place ++ [.text s])).isSome = true) ∧
      store.walk (place.step s) rest = .ok p := by
  rw [walk]
  rcases store.find? place with _ | _ | contents
  · simp
  · unfold Path.step
    by_cases hstay : s = "" ∨ s = "."
    · have hup : s ≠ ".." := by
        rintro rfl
        revert hstay
        decide
      have hname : ¬ IsEntryName s := fun h => hstay.elim h.1 h.2.1
      simp [hstay, hup, hname]
    · by_cases hup : s = ".."
      · have hname : ¬ IsEntryName ".." := fun h => h.2.2 rfl
        simp [hup, hname]
      · have hname : IsEntryName s := ⟨fun h => hstay (.inl h), fun h => hstay (.inr h), hup⟩
        by_cases hfound : (store.find? (place ++ [.text s])).isSome = true
        · simp [hstay, hup, hname, hfound]
        · simp [hstay, hup, hname, hfound]
  · simp

theorem walk_append_eq_ok_iff {xs ys : List String} {place p : Path} :
    store.walk place (xs ++ ys) = .ok p ↔
      ∃ q, store.walk place xs = .ok q ∧ store.walk q ys = .ok p := by
  induction xs generalizing place with
  | nil => simp [walk]
  | cons s xs ih =>
    rw [List.cons_append]
    simp only [walk_cons_eq_ok_iff, ih]
    constructor
    · rintro ⟨hplace, hname, q, hq, hp⟩
      exact ⟨q, ⟨hplace, hname, hq⟩, hp⟩
    · rintro ⟨q, ⟨hplace, hname, hq⟩, hp⟩
      exact ⟨hplace, hname, q, hq, hp⟩

theorem walk_concat_of_isSome {start place : Path} {init : List String} {name : String}
    (hwalk : store.walk start init = .ok place) (hplace : store.find? place = some .directory)
    (hname : IsEntryName name) (hfound : (store.find? (place ++ [.text name])).isSome = true) :
    store.walk start (init ++ [name]) = .ok (place ++ [.text name]) := by
  refine walk_append_eq_ok_iff.2 ⟨place, hwalk, walk_cons_eq_ok_iff.2
    ⟨hplace, fun _ => hfound, ?_⟩⟩
  rw [Path.step_of_isEntryName hname]
  rfl

/-- **What is to be created** needs a directory to be created in. -/
theorem target_concat_eq_ok_iff {start : Path} {init : List String} {name : String}
    {r : Option Path} :
    store.target start (init ++ [name]) = .ok r ↔ ∃ place, store.walk start init = .ok place ∧
      store.find? place = some .directory ∧
      r = if name = "." ∨ name = ".." then none else some (place ++ [.text name]) := by
  simp only [target, List.getLast?_concat, List.dropLast_concat]
  rcases store.walk start init with e | place
  · simp
  · by_cases hplace : store.find? place = some .directory
    · have hdirectory : store.isDirectory place = true := isDirectory_iff.2 hplace
      by_cases hname : name = "." ∨ name = ".."
      · simp [hdirectory, hplace, hname, eq_comm]
      · simp [hdirectory, hplace, hname, eq_comm]
    · have hdirectory : ¬ store.isDirectory place = true := mt isDirectory_iff.1 hplace
      simp [hdirectory, hplace]

section KeepsPlacesOf
variable (h : later.KeepsPlacesOf store)
include h

theorem KeepsPlacesOf.origin (path : String) : later.origin path = store.origin path := by
  unfold Store.origin
  rw [h.cwd_eq]

theorem KeepsPlacesOf.walk {segs : List String} {place p : Path}
    (hp : store.walk place segs = .ok p) : later.walk place segs = .ok p := by
  induction segs generalizing place with
  | nil => exact hp
  | cons s rest ih =>
    obtain ⟨hplace, hname, hrest⟩ := walk_cons_eq_ok_iff.1 hp
    exact walk_cons_eq_ok_iff.2
      ⟨h.directory _ hplace, fun hs => h.isSome _ (hname hs), ih hrest⟩

theorem KeepsPlacesOf.resolve {path : String} {p : Path} (hp : store.resolve path = .ok p) :
    later.resolve path = .ok p := by
  unfold Store.resolve at hp ⊢
  split_ifs at hp ⊢
  rw [h.origin]
  exact h.walk hp

theorem KeepsPlacesOf.target {start : Path} {parts : List String} {r : Option Path}
    (hr : store.target start parts = .ok r) : later.target start parts = .ok r := by
  rcases List.eq_nil_or_concat parts with rfl | ⟨init, name, rfl⟩
  · exact hr
  · rw [List.concat_eq_append] at hr ⊢
    obtain ⟨place, hwalk, hplace, hr⟩ := target_concat_eq_ok_iff.1 hr
    exact target_concat_eq_ok_iff.2 ⟨place, h.walk hwalk, h.directory place hplace, hr⟩

/-- **A file path that leads somewhere still leads there.** -/
theorem KeepsPlacesOf.filePlace {path : String} {p : Path} (hp : store.filePlace path = .ok p) :
    later.filePlace path = .ok p := by
  unfold Store.filePlace at hp ⊢
  split_ifs at hp ⊢
  rw [h.origin]
  rcases htarget : store.target (store.origin path) (segments path) with e | r
  · rw [htarget] at hp
    cases hp
  · rw [htarget] at hp
    rw [h.target htarget]
    exact hp

theorem KeepsPlacesOf.leadsToDirectory {start : Path} {parts : List String}
    (hparts : store.leadsToDirectory start parts = true) :
    later.leadsToDirectory start parts = true := by
  unfold Store.leadsToDirectory at hparts ⊢
  rcases hwalk : store.walk start parts with e | p
  · rw [hwalk] at hparts
    cases hparts
  · rw [hwalk] at hparts
    rw [h.walk hwalk]
    exact isDirectory_iff.2 (h.directory p (isDirectory_iff.1 hparts))

end KeepsPlacesOf

theorem Extends.readAt {p : Path} {text : String} (h : later.Extends store)
    (hp : store.readAt p = .ok text) : later.readAt p = .ok text := by
  unfold Store.readAt at hp ⊢
  rcases hfind : store.find? p with _ | e
  · rw [hfind] at hp
    cases hp
  · rw [hfind] at hp
    rw [h.kept p e hfind]
    exact hp

/-- **A file that can be read still has the same text.** -/
theorem Extends.readText {path text : String} (h : later.Extends store)
    (hpath : store.readText path = .ok text) : later.readText path = .ok text := by
  unfold Store.readText at hpath ⊢
  rcases hp : store.resolve path with e | p
  · rw [hp] at hpath
    cases hpath
  · rw [hp] at hpath
    rw [h.keepsPlacesOf.resolve hp]
    exact h.readAt hpath

/-! ### Files -/

theorem walk_ne_alreadyExists (store : Store) (segs : List String) (place : Path) :
    store.walk place segs ≠ .error .alreadyExists := by
  fun_induction store.walk place segs <;> simp_all

theorem target_ne_alreadyExists (store : Store) (start : Path) (parts : List String) :
    store.target start parts ≠ .error .alreadyExists := by
  unfold target
  rcases hwalk : store.walk start parts.dropLast with e | place
  · have hne : e ≠ .alreadyExists := fun he =>
      store.walk_ne_alreadyExists parts.dropLast start (he ▸ hwalk)
    split
    · nofun
    · simpa using hne
  · split
    · nofun
    · dsimp only
      split_ifs <;> nofun

theorem filePlace_ne_alreadyExists (store : Store) (path : String) :
    store.filePlace path ≠ .error .alreadyExists := by
  unfold filePlace
  rcases htarget : store.target (store.origin path) (segments path) with e | r
  · have hne : e ≠ .alreadyExists := fun he => store.target_ne_alreadyExists _ _ (he ▸ htarget)
    split_ifs
    · nofun
    · nofun
    · simpa using hne
  · split_ifs
    · nofun
    · nofun
    · cases r <;> nofun

/-- **A file is opened** where there is nothing, or anything but a directory if it is replaced. -/
theorem openFile_eq_ok_iff {path : String} {overwrite : Bool} {p : Path} :
    store.openFile path overwrite = .ok p ↔ store.filePlace path = .ok p ∧
      (overwrite = true → store.find? p ≠ some .directory) ∧
      (overwrite = false → store.find? p = none) := by
  unfold openFile
  rcases store.filePlace path with e | q
  · simp
  · dsimp only
    rw [Except.ok.injEq]
    constructor
    · intro h
      split_ifs at h with hover hdirectory hfound
      · cases h
        exact ⟨rfl, fun _ => mt isDirectory_iff.2 hdirectory, fun hkeep => by simp [hkeep] at hover⟩
      · cases h
        exact ⟨rfl, fun hreplace => absurd hreplace hover, fun _ => by simpa using hfound⟩
    · rintro ⟨rfl, hdirectory, hnone⟩
      cases overwrite with
      | true => rw [if_pos rfl, if_neg (mt isDirectory_iff.1 (hdirectory rfl))]
      | false =>
        rw [if_neg Bool.false_ne_true, hnone rfl]
        rfl

/-- **A file is there already** if something is, and it is not to be replaced. -/
theorem openFile_eq_alreadyExists_iff {path : String} {overwrite : Bool} :
    store.openFile path overwrite = .error .alreadyExists ↔ overwrite = false ∧
      ∃ p, store.filePlace path = .ok p ∧ (store.find? p).isSome = true := by
  have hne := store.filePlace_ne_alreadyExists path
  unfold openFile
  rcases hplace : store.filePlace path with e | p
  · simpa [hplace] using hne
  · cases overwrite with
    | true => by_cases hdirectory : store.isDirectory p = true <;> simp [hdirectory]
    | false => rcases hfind : store.find? p with _ | e <;> simp [hfind]

/-! ### Directories -/

theorem makeDirectory_eq_ok_iff {start : Path} {parts : List String} :
    store.makeDirectory start parts = .ok made ↔ ∃ p, store.target start parts = .ok (some p) ∧
      store.find? p = none ∧ made = store.put p .directory := by
  unfold makeDirectory
  rcases store.target start parts with e | _ | p
  · simp
  · simp
  · rcases hfind : store.find? p with _ | e
    · simp [hfind, eq_comm]
    · simp [hfind]

section Making
variable {start : Path} {kind : Path → Prop}

theorem addsDirectories_put {p : Path} (hkind : kind p) (h : store.find? p = none) :
    (store.put p .directory).AddsDirectories store kind where
  cwd_eq := cwd_put store p _
  unchanged_or q := by
    have hp : p ≠ [] := by
      rintro rfl
      rw [find?_nil] at h
      cases h
    rw [find?_put hp]
    split
    · next hq => exact .inr (hq ▸ ⟨hkind, h, rfl⟩)
    · exact .inl rfl

theorem addsDirectories_ensureDirectory {parts : List String}
    (hkind : ∀ p, store.target start parts = .ok (some p) → kind p) :
    (store.ensureDirectory start parts).1.AddsDirectories store kind := by
  unfold ensureDirectory
  split
  · next hmade =>
    obtain ⟨p, htarget, hfind, rfl⟩ := makeDirectory_eq_ok_iff.1 hmade
    exact addsDirectories_put (hkind p htarget) hfind
  · exact .refl store kind

theorem addsDirectories_ensureReversed {names : List String}
    (hkind : ∀ parts, parts <+: names.reverse → ∀ (s : Store) p,
      s.target start parts = .ok (some p) → kind p) :
    (store.ensureReversed start names).1.AddsDirectories store kind := by
  induction names generalizing store with
  | nil => exact .refl store kind
  | cons name above ih =>
    have habove : above.reverse <+: (name :: above).reverse := by simp
    have hlast : ∀ s : Store,
        (s.ensureDirectory start (name :: above).reverse).1.AddsDirectories s kind :=
      fun s => addsDirectories_ensureDirectory (hkind _ (List.prefix_refl _) s)
    have hfirst : (store.ensureReversed start above).1.AddsDirectories store kind :=
      ih fun parts hparts => hkind parts (hparts.trans habove)
    rw [ensureReversed]
    split
    · split
      · next made hmade =>
        rw [hmade] at hfirst
        exact (hlast made).trans hfirst
      · next hmade =>
        rw [hmade] at hfirst
        exact hfirst
    · exact hlast store

/-- **Making directories adds directories,** all of a kind if every target on the way is, even if a
fault ends it. -/
theorem addsDirectories_makeDirectories {path : String} (fault : Option DirectoryFault)
    (hkind : ∀ parts, parts <+: namedSegments path → ∀ (s : Store) p,
      s.target (store.origin path) parts = .ok (some p) → kind p) :
    (store.makeDirectories path fault).1.AddsDirectories store kind := by
  have hmade : ∀ names, names <+: namedSegments path →
      (store.ensureReversed (store.origin path) names.reverse).1.AddsDirectories store kind := by
    intro names hnames
    refine addsDirectories_ensureReversed fun parts hparts => hkind parts ?_
    rw [List.reverse_reverse] at hparts
    exact hparts.trans hnames
  unfold makeDirectories
  split
  · exact .refl store kind
  · split
    · exact hmade _ (List.prefix_refl _)
    · next fault =>
      have hsome := hmade _ (List.take_prefix fault.reached (namedSegments path))
      split
      · next heq => rwa [heq] at hsome
      · next heq => rwa [heq] at hsome

theorem extends_makeDirectories (store : Store) (path : String)
    (fault : Option DirectoryFault := none) :
    (store.makeDirectories path fault).1.Extends store := by
  have h : (store.makeDirectories path fault).1.AddsDirectories store fun _ => True :=
    addsDirectories_makeDirectories fault fun _ _ _ _ _ => trivial
  exact h.extends

theorem makeDirectories_of_fault {path : String} {fault : Option DirectoryFault}
    (h : store.makeDirectories path fault = (made, .ok ())) :
    store.makeDirectories path = (made, .ok ()) := by
  rcases fault with _ | fault
  · exact h
  · unfold makeDirectories at h
    split at h
    · cases h
    · dsimp only at h
      split at h <;> cases h

theorem leadsToDirectory_iff {parts : List String} : store.leadsToDirectory start parts = true ↔
    ∃ p, store.walk start parts = .ok p ∧ store.find? p = some .directory := by
  unfold leadsToDirectory
  rcases store.walk start parts with e | p
  · simp
  · simp [isDirectory]

theorem leadsToDirectory_of_makeDirectory {init : List String} {name : String} (hname : name ≠ "")
    (h : store.makeDirectory start (init ++ [name]) = .ok made) :
    made.leadsToDirectory start (init ++ [name]) = true := by
  obtain ⟨p, htarget, hfind, rfl⟩ := makeDirectory_eq_ok_iff.1 h
  obtain ⟨place, hwalk, hplace, hp⟩ := target_concat_eq_ok_iff.1 htarget
  have hkeeps := (extends_put hfind .directory).keepsPlacesOf
  split_ifs at hp with hdots
  have hentry : IsEntryName name := ⟨hname, fun h => hdots (.inl h), fun h => hdots (.inr h)⟩
  cases hp
  have hput := find?_put_self store (List.concat_ne_nil (.text name) place) .directory
  exact leadsToDirectory_iff.2 ⟨place ++ [.text name], walk_concat_of_isSome (hkeeps.walk hwalk)
    (hkeeps.directory place hplace) hentry (by rw [hput]; rfl), hput⟩

theorem leadsToDirectory_of_ensureDirectory {init : List String} {name : String} (hname : name ≠ "")
    (h : store.ensureDirectory start (init ++ [name]) = (made, .ok ())) :
    made.leadsToDirectory start (init ++ [name]) = true := by
  unfold ensureDirectory at h
  split at h
  · next hmade =>
    cases h
    exact leadsToDirectory_of_makeDirectory hname hmade
  · split_ifs at h with hleads
    · cases h
      exact hleads
    · cases h

theorem leadsToDirectory_of_ensureReversed {name : String} {above : List String} (hname : name ≠ "")
    (h : store.ensureReversed start (name :: above) = (made, .ok ())) :
    made.leadsToDirectory start (name :: above).reverse = true := by
  have hlast : ∀ s : Store, s.ensureDirectory start (name :: above).reverse = (made, .ok ()) →
      made.leadsToDirectory start (name :: above).reverse = true := by
    rw [List.reverse_cons]
    exact fun s => leadsToDirectory_of_ensureDirectory hname
  rw [ensureReversed] at h
  split at h
  · split at h
    · exact hlast _ h
    · cases h
  · exact hlast _ h

theorem makeDirectory_of_leadsToDirectory {init : List String} {name : String} (hname : name ≠ "")
    (h : store.leadsToDirectory start (init ++ [name]) = true) :
    store.makeDirectory start (init ++ [name]) = .error .alreadyExists := by
  obtain ⟨p, hwalk, -⟩ := leadsToDirectory_iff.1 h
  obtain ⟨place, hplace, hstep⟩ := walk_append_eq_ok_iff.1 hwalk
  obtain ⟨hdirectory, hentry, -⟩ := walk_cons_eq_ok_iff.1 hstep
  have htarget : store.target start (init ++ [name]) = .ok _ :=
    target_concat_eq_ok_iff.2 ⟨place, hplace, hdirectory, rfl⟩
  unfold makeDirectory
  rw [htarget]
  by_cases hdots : name = "." ∨ name = ".."
  · rw [if_pos hdots]
  · rw [if_neg hdots]
    have hfound := hentry ⟨hname, fun h => hdots (.inl h), fun h => hdots (.inr h)⟩
    simp [hfound]

theorem ensureReversed_of_leadsToDirectory {name : String} {above : List String} (hname : name ≠ "")
    (h : store.leadsToDirectory start (name :: above).reverse = true) :
    store.ensureReversed start (name :: above) = (store, .ok ()) := by
  have hmake : store.makeDirectory start (name :: above).reverse = .error .alreadyExists := by
    rw [List.reverse_cons] at h ⊢
    exact makeDirectory_of_leadsToDirectory hname h
  have hensure : store.ensureDirectory start (name :: above).reverse = (store, .ok ()) := by
    rw [ensureDirectory, hmake]
    exact congrArg (Prod.mk store) (if_pos h)
  rw [ensureReversed, hmake]
  exact hensure

end Making

theorem ne_empty_of_mem_namedSegments {path s : String} (h : s ∈ namedSegments path) : s ≠ "" := by
  have hnamed : ∀ s ∈ (segments path).filter fun s => s ≠ "" ∧ s ≠ ".", s ≠ "" := by
    intro s hs
    have hboth := List.of_mem_filter hs
    simp only [decide_eq_true_eq] at hboth
    exact hboth.1
  unfold namedSegments at h
  dsimp only at h
  split_ifs at h
  · rcases List.mem_cons.1 h with rfl | h
    · decide
    · exact hnamed s h
  · exact hnamed s h

theorem ne_empty_of_reverse_namedSegments {path name : String} {above : List String}
    (h : (namedSegments path).reverse = name :: above) : name ≠ "" :=
  ne_empty_of_mem_namedSegments (List.mem_reverse.1 (h ▸ List.mem_cons_self))

theorem leadsToDirectory_of_makeDirectories {path : String}
    (h : store.makeDirectories path = (made, .ok ())) : namedSegments path = [] ∨
      made.leadsToDirectory (store.origin path) (namedSegments path) = true := by
  rcases hnames : (namedSegments path).reverse with _ | ⟨name, above⟩
  · exact .inl (List.reverse_eq_nil_iff.1 hnames)
  · have hname := ne_empty_of_reverse_namedSegments hnames
    rw [makeDirectories] at h
    split at h
    · cases h
    · rw [hnames] at h
      rw [← List.reverse_reverse (namedSegments path), hnames]
      exact .inr (leadsToDirectory_of_ensureReversed hname h)

theorem makeDirectories_again {path : String} (h : store.makeDirectories path = (made, .ok ()))
    (hlater : later.KeepsPlacesOf made) : later.makeDirectories path = (later, .ok ()) := by
  have hmade := extends_makeDirectories store path
  rw [h] at hmade
  have horigin : later.origin path = store.origin path :=
    (hlater.origin path).trans (hmade.keepsPlacesOf.origin path)
  have hleads := leadsToDirectory_of_makeDirectories h
  unfold makeDirectories at h ⊢
  split_ifs at h ⊢
  · cases h
  · rw [horigin]
    rcases hnames : (namedSegments path).reverse with _ | ⟨name, above⟩
    · rfl
    · have hname := ne_empty_of_reverse_namedSegments hnames
      rcases hleads with hnil | hleads
      · rw [hnil] at hnames
        cases hnames
      · rw [← List.reverse_reverse (namedSegments path), hnames] at hleads
        exact ensureReversed_of_leadsToDirectory hname (hlater.leadsToDirectory hleads)

end Store

end EntityForge
