/-! # Literals

The values a description gives to properties. Numbers keep their spelling, and the fields of an
object keep their order and their repeats.

* `Literal`: a number, a text, a truth value, an object or an array.
* `Property`: a name with its literal. -/

namespace EntityForge

/-- **A literal value.** -/
inductive Literal where
  | number (spelling : String)
  | string (content : String)
  | boolean (truth : Bool)
  | object (fields : List (String × Literal))
  | array (elements : List Literal)
  deriving Repr, Inhabited

/-- A named literal. -/
abbrev Property := String × Literal

namespace Literal

/-- The kind of a literal as documentation names it. -/
def kindName : Literal → String
  | number _ => "number"
  | string _ => "string"
  | boolean _ => "boolean"
  | object _ => "Object"
  | array _ => "Array"

/-- Whether a literal has no parts. -/
def isSimple : Literal → Bool
  | object _ | array _ => false
  | _ => true

/-! ### Equality -/

mutual
/-- Equality of literals is decided by comparing them part by part. -/
def decEq : (a b : Literal) → Decidable (a = b)
  | number s, number t => decidable_of_iff (s = t) (by simp)
  | string s, string t => decidable_of_iff (s = t) (by simp)
  | boolean s, boolean t => decidable_of_iff (s = t) (by simp)
  | object s, object t =>
    match decEqFields s t with
    | isTrue h => isTrue (by rw [h])
    | isFalse h => isFalse (by simpa using h)
  | array s, array t =>
    match decEqElements s t with
    | isTrue h => isTrue (by rw [h])
    | isFalse h => isFalse (by simpa using h)
  | number _, string _ | number _, boolean _ | number _, object _ | number _, array _
  | string _, number _ | string _, boolean _ | string _, object _ | string _, array _
  | boolean _, number _ | boolean _, string _ | boolean _, object _ | boolean _, array _
  | object _, number _ | object _, string _ | object _, boolean _ | object _, array _
  | array _, number _ | array _, string _ | array _, boolean _ | array _, object _ =>
    isFalse nofun

/-- Equality of field lists. -/
def decEqFields : (a b : List (String × Literal)) → Decidable (a = b)
  | [], [] => isTrue rfl
  | [], _ :: _ => isFalse nofun
  | _ :: _, [] => isFalse nofun
  | (k, v) :: s, (l, w) :: t =>
    match decEq v w, decEqFields s t with
    | isTrue hv, isTrue hs => decidable_of_iff (k = l) (by simp [hv, hs])
    | isFalse hv, _ => isFalse (by simp [hv])
    | _, isFalse hs => isFalse (by simp [hs])

/-- Equality of element lists. -/
def decEqElements : (a b : List Literal) → Decidable (a = b)
  | [], [] => isTrue rfl
  | [], _ :: _ => isFalse nofun
  | _ :: _, [] => isFalse nofun
  | v :: s, w :: t =>
    match decEq v w, decEqElements s t with
    | isTrue hv, isTrue hs => isTrue (by rw [hv, hs])
    | isFalse hv, _ => isFalse (by simp [hv])
    | _, isFalse hs => isFalse (by simp [hs])
end

instance : DecidableEq Literal := decEq

end Literal

end EntityForge
