import EntityForge.Table
import Mathlib.Data.List.Induction
import Mathlib.Data.List.Nodup

/-! # Tables that are filled in order

A table that takes pairs one after the other holds every key once, where it came first, with the
value that came last.

* `eraseDups_concat`, `pairwise_idxOf_eraseDups`, `nodup_eraseDups`: a list without its repeats.
* `Table.mem_of_findIn`, `Table.find?_eq_some_of_mem`: looking up, and the pairs of a table.
* `Table.LastWins`: a table that holds pairs in the order of their first keys, with their last
  values. `Table.LastWins.insert`: one pair more. -/

namespace EntityForge

/-! ### Lists without repeats -/

section Lists
variable {κ : Type} [DecidableEq κ]

theorem eraseDups_concat (keys : List κ) (key : κ) :
    (keys ++ [key]).eraseDups
      = if key ∈ keys then keys.eraseDups else keys.eraseDups ++ [key] := by
  rw [List.eraseDups_append]
  split_ifs with h
  · simp [List.removeAll, h]
  · simp [List.removeAll, h, List.eraseDups_cons]

theorem pairwise_idxOf_eraseDups (used : List κ) :
    used.eraseDups.Pairwise fun a b => used.idxOf a < used.idxOf b := by
  induction used using List.reverseRecOn with
  | nil => exact .nil
  | append_singleton used n ih =>
    have hbefore : ∀ a ∈ used.eraseDups, (used ++ [n]).idxOf a = used.idxOf a := fun a ha =>
      List.idxOf_append_of_mem (List.mem_eraseDups.1 ha)
    have hold : used.eraseDups.Pairwise
        fun a b => (used ++ [n]).idxOf a < (used ++ [n]).idxOf b := by
      refine ih.imp_of_mem fun ha hb hlt => ?_
      rwa [hbefore _ ha, hbefore _ hb]
    rw [eraseDups_concat]
    split_ifs with hn
    · exact hold
    · refine List.pairwise_append.2 ⟨hold, List.pairwise_singleton _ n, fun a ha b hb => ?_⟩
      have hlast : (used ++ [n]).idxOf n = used.length := by
        simp [List.idxOf_append_of_notMem hn]
      rw [List.mem_singleton.1 hb, hbefore a ha, hlast]
      exact List.idxOf_lt_length_of_mem (List.mem_eraseDups.1 ha)

theorem nodup_eraseDups (xs : List κ) : xs.eraseDups.Nodup :=
  (pairwise_idxOf_eraseDups xs).imp fun hlt heq => by
    rw [heq] at hlt
    exact Nat.lt_irrefl _ hlt

end Lists

/-! ### Looking up -/

section Tables
variable {κ α : Type} [DecidableEq κ]

theorem Table.mem_of_findIn {key : κ} {value : α} :
    ∀ {pairs : List (κ × α)}, Table.findIn key pairs = some value → (key, value) ∈ pairs
  | [], h => by cases h
  | (k, v) :: rest, h => by
    rw [Table.findIn] at h
    split_ifs at h with hk
    · cases h
      exact hk ▸ List.mem_cons_self
    · exact List.mem_cons_of_mem _ (Table.mem_of_findIn h)

theorem Table.find?_eq_some_of_mem {t : Table κ α} (h : t.keys.Nodup) {key : κ} {value : α}
    (hmem : (key, value) ∈ t.pairs) : t.find? key = some value := by
  obtain ⟨pairs⟩ := t
  simp only [Table.find?, Table.keys] at h hmem ⊢
  induction pairs with
  | nil => cases hmem
  | cons p rest ih =>
    obtain ⟨hnot, hrest⟩ := List.nodup_cons.1 h
    rcases List.mem_cons.1 hmem with rfl | hmem
    · simp [Table.findIn]
    · have hne : p.1 ≠ key := by
        rintro rfl
        exact hnot (List.mem_map.2 ⟨_, hmem, rfl⟩)
      rw [Table.findIn, if_neg hne]
      exact ih hrest hmem

/-! ### Pairs one after the other -/

/-- **A table that holds pairs:** every key once, in the order in which the keys come first, with
the value that comes last. -/
structure Table.LastWins (t : Table κ α) (pairs : List (κ × α)) : Prop where
  keys : t.keys = (pairs.map (·.1)).eraseDups
  nodup : t.keys.Nodup
  value : ∀ before key value after, pairs = before ++ (key, value) :: after →
    key ∉ after.map (·.1) → t.find? key = some value

theorem Table.lastWins_empty : (Table.empty : Table κ α).LastWins [] where
  keys := rfl
  nodup := List.nodup_nil
  value before key value after h := by
    cases before <;> cases h

theorem Table.LastWins.insert {t : Table κ α} {pairs : List (κ × α)} (h : t.LastWins pairs)
    (key : κ) (value : α) : (t.insert key value).LastWins (pairs ++ [(key, value)]) where
  keys := by
    rw [Table.keys_insert, h.keys, List.map_append, List.map_singleton, eraseDups_concat]
    simp only [List.mem_eraseDups]
  nodup := by
    rw [Table.keys_insert]
    split_ifs with hmem
    · exact h.nodup
    · exact List.nodup_append.2 ⟨h.nodup, List.nodup_singleton key, by
        rintro a ha b hb rfl
        exact hmem (List.mem_singleton.1 hb ▸ ha)⟩
  value before other v after heq hafter := by
    rcases List.eq_nil_or_concat' after with rfl | ⟨rest, last, rfl⟩
    · obtain ⟨-, hpair⟩ := List.append_inj' heq rfl
      cases hpair
      exact Table.find?_insert_self ..
    · rw [← List.cons_append, ← List.append_assoc] at heq
      obtain ⟨hpairs, hlast⟩ := List.append_inj' heq rfl
      cases hlast
      rw [List.map_append, List.mem_append, not_or, List.map_singleton, List.mem_singleton]
        at hafter
      rw [Table.find?_insert_of_ne _ hafter.2]
      exact h.value before other v rest hpairs hafter.1

theorem exists_last_pair {pairs : List (κ × α)} {key : κ} (h : key ∈ pairs.map (·.1)) :
    ∃ before value after, pairs = before ++ (key, value) :: after ∧ key ∉ after.map (·.1) := by
  induction pairs with
  | nil => cases h
  | cons p rest ih =>
    by_cases hrest : key ∈ rest.map (·.1)
    · obtain ⟨before, value, after, rfl, hafter⟩ := ih hrest
      exact ⟨p :: before, value, after, rfl, hafter⟩
    · rcases List.mem_cons.1 h with rfl | h
      · exact ⟨[], p.2, rest, rfl, hrest⟩
      · exact absurd h hrest

theorem Table.LastWins.mem_of_mem_pairs {t : Table κ α} {pairs : List (κ × α)}
    (h : t.LastWins pairs) {p : κ × α} (hp : p ∈ t.pairs) : p ∈ pairs := by
  have hkey : p.1 ∈ pairs.map (·.1) := by
    rw [← List.mem_eraseDups, ← h.keys]
    exact List.mem_map_of_mem hp
  obtain ⟨before, value, after, hsplit, hafter⟩ := exists_last_pair hkey
  have hlast := h.value before p.1 value after hsplit hafter
  rw [Table.find?_eq_some_of_mem h.nodup hp] at hlast
  rw [hsplit, ← Option.some.inj hlast]
  simp

end Tables

end EntityForge
