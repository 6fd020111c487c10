/-! # Spans of a text

Places in a text are counted in bytes of its UTF-8 form, so that a span can be handed to any tool
that reads the same file.

* `byteLength`: the number of bytes of a list of characters.
* `Span`: the bytes from `start` up to, not including, `stop`.
* `Located`: a value together with the span it was read from. -/

namespace EntityForge

/-- **The number of bytes** that the characters take in UTF-8. -/
def byteLength : List Char → Nat
  | [] => 0
  | c :: cs => c.utf8Size + byteLength cs

@[simp] theorem byteLength_nil : byteLength [] = 0 := rfl

@[simp] theorem byteLength_cons (c : Char) (cs : List Char) :
    byteLength (c :: cs) = c.utf8Size + byteLength cs := rfl

@[simp] theorem byteLength_append (as bs : List Char) :
    byteLength (as ++ bs) = byteLength as + byteLength bs := by
  induction as with
  | nil => simp
  | cons c cs ih => simp only [List.cons_append, byteLength_cons, ih]; omega

/-- **A half-open range** of byte offsets. -/
structure Span where
  start : Nat
  stop : Nat
  deriving DecidableEq, Repr, Inhabited

/-- **A value with its place** in the source text. -/
structure Located (α : Type) where
  val : α
  span : Span
  deriving DecidableEq, Repr, Inhabited

end EntityForge
