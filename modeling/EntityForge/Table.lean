/-! # Tables in order of first insertion

A table maps keys to values and remembers the order in which the keys came first. A repeated key
keeps its place and takes the later value.

* `Table.insert`: sets the value of a key.
* `Table.insertNew`: the same, unless the key has a value already.
* `Table.find?`, `Table.keys`: the value of a key, and all keys in order.
* `Table.find?_insert_self`, `Table.find?_insert_of_ne`, `Table.keys_insert`: what is seen after an
  insertion.
* `Table.isSome_find?_iff`: the keys are those that have a value. -/

namespace EntityForge

/-- **A table** from keys to values. -/
structure Table (κ α : Type) where
  pairs : List (κ × α)
  deriving DecidableEq, Repr

namespace Table

variable {κ α : Type} [DecidableEq κ]

/-- The table without keys. -/
def empty : Table κ α :=
  ⟨[]⟩

/-- The keys in order of first insertion. -/
def keys (t : Table κ α) : List κ :=
  t.pairs.map (·.1)

/-- The value of a key in a list of pairs. -/
def findIn (key : κ) : List (κ × α) → Option α
  | [] => none
  | (k, v) :: rest => if k = key then some v else findIn key rest

/-- **The value of a key.** -/
def find? (t : Table κ α) (key : κ) : Option α :=
  findIn key t.pairs

/-- Sets the value of a key in a list of pairs: in place, or at the end. -/
def setIn (key : κ) (value : α) : List (κ × α) → List (κ × α)
  | [] => [(key, value)]
  | (k, v) :: rest => if k = key then (k, value) :: rest else (k, v) :: setIn key value rest

/-- **Sets the value of a key.** -/
def insert (t : Table κ α) (key : κ) (value : α) : Table κ α :=
  ⟨setIn key value t.pairs⟩

/-- Sets the value of a key that has none. -/
def insertNew (t : Table κ α) (key : κ) (value : α) : Table κ α :=
  if (t.find? key).isSome then t else t.insert key value

/-- The table of a list of pairs, inserted from left to right. -/
def ofList (pairs : List (κ × α)) : Table κ α :=
  pairs.foldl (fun t p => t.insert p.1 p.2) empty

/-! ### What is seen after an insertion -/

theorem findIn_setIn_self (key : κ) (value : α) (ps : List (κ × α)) :
    findIn key (setIn key value ps) = some value := by
  induction ps with
  | nil => simp [setIn, findIn]
  | cons p ps ih => by_cases h : p.1 = key <;> simp [setIn, findIn, h, ih]

theorem findIn_setIn_of_ne {key other : κ} (h : other ≠ key) (value : α) (ps : List (κ × α)) :
    findIn other (setIn key value ps) = findIn other ps := by
  induction ps with
  | nil => simp [setIn, findIn, h.symm]
  | cons p ps ih =>
    by_cases hk : p.1 = key
    · simp [setIn, findIn, hk, h.symm]
    · simp [setIn, findIn, hk, ih]

theorem map_fst_setIn (key : κ) (value : α) (ps : List (κ × α)) :
    (setIn key value ps).map (·.1)
      = if key ∈ ps.map (·.1) then ps.map (·.1) else ps.map (·.1) ++ [key] := by
  induction ps with
  | nil => simp [setIn]
  | cons p ps ih =>
    by_cases hk : p.1 = key
    · simp [setIn, hk]
    · rw [setIn, if_neg hk, List.map_cons, ih, List.map_cons]
      by_cases hm : key ∈ ps.map (·.1)
      · rw [if_pos hm, if_pos (List.mem_cons_of_mem _ hm)]
      · rw [if_neg hm, if_neg (by simpa [Ne.symm hk] using hm)]
        rfl

@[simp] theorem find?_empty (key : κ) : (empty : Table κ α).find? key = none := rfl

/-- A key that has just been set has its value. -/
@[simp] theorem find?_insert_self (t : Table κ α) (key : κ) (value : α) :
    (t.insert key value).find? key = some value :=
  findIn_setIn_self key value t.pairs

/-- Setting one key leaves the others alone. -/
theorem find?_insert_of_ne (t : Table κ α) {key other : κ} (h : other ≠ key) (value : α) :
    (t.insert key value).find? other = t.find? other :=
  findIn_setIn_of_ne h value t.pairs

/-- A new key comes last, and a known one keeps its place. -/
theorem keys_insert (t : Table κ α) (key : κ) (value : α) :
    (t.insert key value).keys = if key ∈ t.keys then t.keys else t.keys ++ [key] :=
  map_fst_setIn key value t.pairs

theorem isSome_find?_iff (t : Table κ α) (key : κ) :
    (t.find? key).isSome = true ↔ key ∈ t.keys := by
  rcases t with ⟨pairs⟩
  unfold find? keys
  induction pairs with
  | nil => simp [findIn]
  | cons p ps ih =>
    by_cases hkey : p.1 = key
    · simp [findIn, hkey]
    · simp [findIn, hkey, ih, Ne.symm hkey]

/-- A new key comes last, with its value. -/
theorem pairs_insert_of_not_mem {t : Table κ α} {key : κ} (h : key ∉ t.keys) (value : α) :
    (t.insert key value).pairs = t.pairs ++ [(key, value)] := by
  rcases t with ⟨pairs⟩
  unfold insert
  unfold keys at h
  induction pairs with
  | nil => rfl
  | cons p ps ih =>
    rw [List.map_cons, List.mem_cons, not_or] at h
    simp only [setIn, if_neg (Ne.symm h.1), List.cons_append]
    exact congrArg _ (ih h.2)

end Table

end EntityForge
