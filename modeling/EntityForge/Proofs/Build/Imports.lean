import EntityForge.Proofs.Build.Collisions
import Mathlib.Data.List.Lex
import Mathlib.Data.String.Basic

/-! # The imports of the factory

The factory imports the components that the templates use. Shorter paths come first, then paths in
the order of their bytes; components that share a path stay in the order in which the templates use
them.

* `bytes`, `bytes_le_iff`: texts are compared like their bytes.
* `PathOrder`, `filter_mergeSort`: the order of the imports, and what it leaves in place.
* `Catalog.HoldsFiles`, `holdsFiles_of_buildTemplates`: the files that a catalog collects, one
  template after the other.
* `componentImports`, `HoldsFiles.factoryImports`: the imports, in their order. -/

namespace EntityForge

/-! ### Texts and their bytes -/

/-- **The bytes of a text** in UTF-8. -/
def bytes (s : String) : List UInt8 :=
  s.toByteArray.data.toList

theorem bytes_eq_flatMap (s : String) : bytes s = s.toList.flatMap String.utf8EncodeChar := by
  have hlist : s.toByteArray = s.toList.utf8Encode := by
    rw [← String.toByteArray_ofList, String.ofList_toList]
  rw [bytes, hlist, List.utf8Encode]
  simp

theorem length_bytes (s : String) : (bytes s).length = byteLength s.toList := by
  rw [bytes_eq_flatMap]
  induction s.toList with
  | nil => rfl
  | cons c cs ih =>
    rw [List.flatMap_cons, List.length_append, String.length_utf8EncodeChar, ih, byteLength_cons]

/-- Numbers of four digits are compared digit by digit. -/
theorem digits_lt {m n : ℕ} (h : m < n) :
    m / 262144 < n / 262144 ∨ m / 262144 = n / 262144 ∧
      (m / 4096 % 64 < n / 4096 % 64 ∨ m / 4096 % 64 = n / 4096 % 64 ∧
        (m / 64 % 64 < n / 64 % 64 ∨ m / 64 % 64 = n / 64 % 64 ∧ m % 64 < n % 64)) := by
  omega

/-- **A smaller character has smaller bytes,** whatever follows. -/
theorem utf8EncodeChar_append_lt {c d : Char} (h : c < d) (xs ys : List UInt8) :
    String.utf8EncodeChar c ++ xs < String.utf8EncodeChar d ++ ys := by
  have hlt : c.val.toNat < d.val.toNat := h
  have hd : d.val.toNat < 1114112 := by
    rcases d.valid with hlow | ⟨-, hhigh⟩
    · exact Nat.lt_trans hlow (by decide)
    · exact hhigh
  unfold String.utf8EncodeChar
  dsimp only
  generalize c.val.toNat = m at *
  generalize d.val.toNat = n at *
  have hbyte : ∀ k, (k % 64 + 128) % 2 ^ 8 = k % 64 + 128 := by omega
  by_cases hbig : 65535 < m
  · -- Both characters have four bytes, and the leading one decides first.
    have htop : ∀ k < 1114112, (k / 262144 % 8 + 240) % 2 ^ 8 = k / 262144 + 240 := by omega
    have hsize : ∀ k, 65535 < k → ¬ k ≤ 127 ∧ ¬ k ≤ 2047 ∧ ¬ k ≤ 65535 := by omega
    have hdigits := digits_lt hlt
    simp only [hsize m hbig, hsize n (by omega), if_false, List.cons_append, List.nil_append,
      List.cons_lt_cons_iff, UInt8.lt_iff_toNat_lt, UInt8.toNat_ofNat', ← UInt8.toNat_inj, hbyte,
      htop m (by omega), htop n hd]
    omega
  · split_ifs <;>
      simp only [List.cons_append, List.nil_append, List.cons_lt_cons_iff, UInt8.lt_iff_toNat_lt,
        UInt8.toNat_ofNat', ← UInt8.toNat_inj, hbyte] <;>
      omega

theorem flatMap_utf8EncodeChar_lt {as bs : List Char} (h : as < bs) :
    as.flatMap String.utf8EncodeChar < bs.flatMap String.utf8EncodeChar := by
  induction as generalizing bs with
  | nil =>
    rcases bs with _ | ⟨b, bs⟩
    · exact absurd h (List.lt_irrefl [])
    · rw [List.flatMap_nil, List.flatMap_cons]
      obtain ⟨x, xs, hx⟩ := List.exists_cons_of_ne_nil (String.utf8EncodeChar_ne_nil (c := b))
      rw [hx]
      exact List.nil_lt_cons x _
  | cons a as ih =>
    rcases bs with _ | ⟨b, bs⟩
    · exact absurd h (List.not_lt_nil _)
    · rw [List.flatMap_cons, List.flatMap_cons]
      rcases List.cons_lt_cons_iff.1 h with hlt | ⟨rfl, hlt⟩
      · exact utf8EncodeChar_append_lt hlt _ _
      · exact List.append_left_lt (ih hlt)

/-- **Texts are compared like their bytes.** -/
theorem bytes_le_iff {s t : String} : bytes s ≤ bytes t ↔ s ≤ t := by
  have hlt : ∀ {s t : String}, s < t → bytes s < bytes t := by
    intro s t h
    rw [bytes_eq_flatMap, bytes_eq_flatMap]
    exact flatMap_utf8EncodeChar_lt (String.lt_iff_toList_lt.1 h)
  constructor
  · intro h
    by_contra hnot
    exact List.not_lt.2 h (hlt (not_le.1 hnot))
  · intro h
    rcases lt_or_eq_of_le h with h | rfl
    · exact List.le_of_lt (hlt h)
    · exact List.le_refl _

/-! ### The order of imports -/

/-- **The order of paths:** the shorter one first, and paths of the same length by their bytes. -/
def PathOrder (s t : String) : Prop :=
  (bytes s).length < (bytes t).length ∨
    (bytes s).length = (bytes t).length ∧ bytes s ≤ bytes t

theorem shorterPath_iff {a b : Script.Import} :
    Script.shorterPath a b = true ↔ PathOrder a.path b.path := by
  unfold Script.shorterPath PathOrder
  rw [length_bytes, length_bytes, bytes_le_iff]
  simp

theorem shorterPath_trans (a b c : Script.Import) (hab : Script.shorterPath a b = true)
    (hbc : Script.shorterPath b c = true) : Script.shorterPath a c = true := by
  rw [shorterPath_iff] at hab hbc ⊢
  unfold PathOrder at hab hbc ⊢
  rcases hab with hab | ⟨hab, hle⟩
  · rcases hbc with hbc | ⟨hbc, -⟩
    · exact .inl (by omega)
    · exact .inl (by omega)
  · rcases hbc with hbc | ⟨hbc, hle'⟩
    · exact .inl (by omega)
    · exact .inr ⟨by omega, List.le_trans hle hle'⟩

theorem shorterPath_total (a b : Script.Import) :
    (Script.shorterPath a b || Script.shorterPath b a) = true := by
  rw [Bool.or_eq_true, shorterPath_iff, shorterPath_iff]
  unfold PathOrder
  rcases Nat.lt_trichotomy (bytes a.path).length (bytes b.path).length with h | h | h
  · exact .inl (.inl h)
  · rcases List.le_total (bytes a.path) (bytes b.path) with hle | hle
    · exact .inl (.inr ⟨h, hle⟩)
    · exact .inr (.inr ⟨h.symm, hle⟩)
  · exact .inr (.inl h)

/-- **Elements that are all in order with each other** keep their places when a list is sorted. -/
theorem filter_mergeSort {α : Type} {le : α → α → Bool}
    (htrans : ∀ a b c, le a b = true → le b c = true → le a c = true)
    (htotal : ∀ a b, (le a b || le b a) = true) {q : α → Bool}
    (hq : ∀ a b, q a = true → q b = true → le a b = true) (xs : List α) :
    (xs.mergeSort le).filter q = xs.filter q := by
  have hpairs : (xs.filter q).Pairwise fun a b => le a b = true :=
    List.pairwise_of_forall_mem_list fun a ha b hb =>
      hq a b (List.mem_filter.1 ha).2 (List.mem_filter.1 hb).2
  have hsub : (xs.filter q).Sublist (xs.mergeSort le) :=
    List.sublist_mergeSort htrans htotal hpairs List.filter_sublist
  have hkept := hsub.filter q
  simp only [List.filter_filter, Bool.and_self] at hkept
  have hperm := (List.mergeSort_perm xs le).filter q
  exact (hkept.eq_of_length hperm.length_eq.symm).symm

/-! ### The files of used components -/

/-- **A table of the files of components:** each name once, in the order in which the names are
used, with the file of a component of that name. -/
def HoldsFiles (files : Table String String) (used : List String) : Prop :=
  files.pairs = used.eraseDups.map fun c => (c, scriptFile c)

theorem HoldsFiles.keys {files : Table String String} {used : List String}
    (h : HoldsFiles files used) : files.keys = used.eraseDups := by
  rw [Table.keys, h, List.map_map]
  exact List.map_id _

theorem HoldsFiles.insertNew {files : Table String String} {used : List String}
    (h : HoldsFiles files used) (c : String) :
    HoldsFiles (files.insertNew c (scriptFile c)) (used ++ [c]) := by
  have hmem : (files.find? c).isSome = true ↔ c ∈ used := by
    rw [Table.isSome_find?_iff, h.keys, List.mem_eraseDups]
  unfold HoldsFiles Table.insertNew
  rw [eraseDups_concat]
  by_cases hc : c ∈ used
  · rw [if_pos (hmem.2 hc), if_pos hc]
    exact h
  · have hnew : c ∉ files.keys := by
      rw [h.keys, List.mem_eraseDups]
      exact hc
    rw [if_neg (mt hmem.1 hc), if_neg hc, Table.pairs_insert_of_not_mem hnew, h, List.map_append]
    rfl

theorem HoldsFiles.addFiles {files : Table String String} {used : List String}
    (h : HoldsFiles files used) (cs : List String) :
    HoldsFiles (addFiles files cs) (used ++ cs) := by
  induction cs generalizing files used with
  | nil => rwa [List.append_nil]
  | cons c cs ih =>
    rw [List.append_cons]
    exact ih (h.insertNew c)

/-- The names of the components that each template uses. -/
def Catalog.used (catalog : Catalog) : List (List String) :=
  catalog.entries.map fun e => e.components.keys

/-- **Templates one after the other** collect the files of the components they use. -/
theorem holdsFiles_of_buildTemplates {config : Config} {ts : List Template} :
    ∀ {catalog last : Catalog}, HoldsFiles catalog.files catalog.used.flatten →
      (buildTemplates config catalog ts).outcome = .ok last →
      HoldsFiles last.files last.used.flatten := by
  induction ts with
  | nil =>
    intro catalog last h hlast
    cases hlast
    exact h
  | cons t ts ih =>
    intro catalog last h hlast
    rw [buildTemplates] at hlast
    obtain ⟨next, hnext, hrest⟩ := Run.outcome_bind_eq_ok_iff.1 hlast
    obtain ⟨resolved, -, rfl⟩ := outcome_buildTemplate_eq_ok hnext
    refine ih ?_ hrest
    have hused : (catalog.add t.name.val resolved).used.flatten
        = catalog.used.flatten ++ resolved.keys := by
      simp [Catalog.used, Catalog.add]
    rw [hused]
    exact h.addFiles resolved.keys

/-! ### The imports of a program -/

/-- The path from which the factory imports a component. -/
def importPath (component : String) : String :=
  "./components/" ++ scriptFile component

/-- The imports of components, in their order. -/
def componentImports (names : List String) : List Script.Import :=
  (names.map fun c => Script.Import.whole c (importPath c)).mergeSort Script.shorterPath

theorem HoldsFiles.factoryImports {files : Table String String} {used : List String}
    (h : HoldsFiles files used) (runtime : String) :
    Script.factoryImports runtime files
      = Script.Import.named "World" runtime :: componentImports used.eraseDups := by
  unfold Script.factoryImports componentImports
  rw [h, List.map_map]
  rfl

theorem mem_componentImports {names : List String} {i : Script.Import} :
    i ∈ componentImports names ↔ ∃ c ∈ names, Script.Import.whole c (importPath c) = i := by
  rw [componentImports, (List.mergeSort_perm _ _).mem_iff, List.mem_map]

theorem perm_componentImports (names : List String) :
    ((componentImports names).map Script.Import.name).Perm names := by
  have hperm := (List.mergeSort_perm (names.map fun c => Script.Import.whole c (importPath c))
    Script.shorterPath).map Script.Import.name
  rw [List.map_map] at hperm
  exact hperm.trans (.of_eq (List.map_id names))

theorem pairwise_componentImports (names : List String) :
    (componentImports names).Pairwise fun a b => PathOrder a.path b.path :=
  (List.pairwise_mergeSort shorterPath_trans shorterPath_total _).imp shorterPath_iff.1

theorem filter_componentImports (names : List String) (path : String) :
    ((componentImports names).filter fun i => i.path = path).map Script.Import.name
      = names.filter fun c => importPath c = path := by
  have hsame : ∀ a b : Script.Import, decide (a.path = path) = true →
      decide (b.path = path) = true → Script.shorterPath a b = true := by
    intro a b ha hb
    rw [shorterPath_iff, of_decide_eq_true ha, of_decide_eq_true hb]
    exact .inr ⟨rfl, List.le_refl _⟩
  rw [componentImports, filter_mergeSort shorterPath_trans shorterPath_total hsame,
    List.filter_map, List.map_map]
  exact List.map_id _

end EntityForge
