/-! # Bytes as text

Bytes are read as UTF-8 one at a time. Bytes that belong to no character are not an error here: each
ill-formed part is noted in its place, and reading goes on right after it. Such a part is as long as
it is still the beginning of some character, and one byte if it is not even that.

* `Utf8.Sequence`: a character that has begun.
* `Utf8.step`: what one more byte does.
* `Utf8.decode`: the characters and the ill-formed parts, in order.
* `Utf8.shown`: the text, with a replacement character for every ill-formed part.
* `Utf8.read?`: the text of bytes that have no such part.
* `Octets`: bytes as they come from a disk, text or not. -/

namespace EntityForge.Text.Utf8

/-- **A character that has begun:** how many bytes it still needs, between which bounds the next one
has to lie, and the value of its bits so far. -/
structure Sequence where
  owed : Nat
  low : Nat
  high : Nat
  value : Nat
  deriving DecidableEq, Repr

/-- What is complete after a byte, `none` being an ill-formed part, and the character that has begun
if there is one. -/
abbrev Reading := List (Option Char) × Option Sequence

/-- The reading of a byte between characters. The bounds of the second byte leave out overlong
forms, surrogates and values that are no code point. -/
def opening (b : Nat) : Reading :=
  if b < 0x80 then ([some (Char.ofNat b)], none)
  else if b < 0xC2 then ([none], none)
  else if b < 0xE0 then ([], some ⟨1, 0x80, 0xBF, b - 0xC0⟩)
  else if b < 0xF0 then
    ([], some ⟨2, if b = 0xE0 then 0xA0 else 0x80, if b = 0xED then 0x9F else 0xBF, b - 0xE0⟩)
  else if b < 0xF5 then
    ([], some ⟨3, if b = 0xF0 then 0x90 else 0x80, if b = 0xF4 then 0x8F else 0xBF, b - 0xF0⟩)
  else ([none], none)

/-- The reading of a byte that belongs to a character that has begun. -/
def Sequence.extend (s : Sequence) (b : Nat) : Reading :=
  let value := s.value * 64 + (b - 0x80)
  if s.owed ≤ 1 then ([some (Char.ofNat value)], none)
  else ([], some ⟨s.owed - 1, 0x80, 0xBF, value⟩)

/-- **The reading of one more byte.** A byte that does not belong to the character that has begun
leaves that one ill-formed and is read anew. -/
def step (state : Option Sequence) (b : Nat) : Reading :=
  match state with
  | none => opening b
  | some s =>
    if s.low ≤ b ∧ b ≤ s.high then s.extend b
    else (none :: (opening b).1, (opening b).2)

/-- The characters and ill-formed parts of bytes that follow a state. -/
def decodeFrom (state : Option Sequence) : List UInt8 → List (Option Char)
  | [] => if state.isSome then [none] else []
  | b :: bs => (step state b.toNat).1 ++ decodeFrom (step state b.toNat).2 bs

/-- **The characters and ill-formed parts** of bytes, in order. -/
def decode (bytes : List UInt8) : List (Option Char) :=
  decodeFrom none bytes

/-- **The text of bytes,** with U+FFFD for every ill-formed part. -/
def shown (bytes : List UInt8) : String :=
  String.ofList ((decode bytes).map (·.getD (Char.ofNat 0xFFFD)))

/-- **The text of bytes** without ill-formed parts. -/
def read? (bytes : List UInt8) : Option String :=
  if (decode bytes).all Option.isSome then some (shown bytes) else none

end EntityForge.Text.Utf8

namespace EntityForge

/-- **Bytes that need not be text:** a text, or bytes that are not the UTF-8 form of any. -/
inductive Octets where
  | text (s : String)
  | binary (bytes : List UInt8)
  deriving DecidableEq, Repr

instance : Coe String Octets :=
  ⟨.text⟩

/-- The text that bytes are the UTF-8 form of, or else the bytes. -/
def Octets.ofBytes (bytes : List UInt8) : Octets :=
  match Text.Utf8.read? bytes with
  | some s => .text s
  | none => .binary bytes

/-- **Bytes as they are shown,** with a replacement character for every part that is no text. -/
def Octets.shown : Octets → String
  | text s => s
  | binary bytes => Text.Utf8.shown bytes

end EntityForge
