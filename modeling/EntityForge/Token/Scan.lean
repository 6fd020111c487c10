import EntityForge.Text.Span
import EntityForge.Token.Basic

/-! # Scanning

A text is cut into lexemes from left to right. A lexeme is a gap (one blank character or a comment),
a token, or a fault, and it keeps the characters it was cut from, so the lexemes of a text
concatenate to the text. At every place the longest possible token is taken.

* `numberPart`, `wordPart`, `stringBody`: the longest initial part of each kind.
* `Lexeme.first`: the lexeme at the start of a text.
* `lexemes`: all lexemes of a text; `flatten_lexemes` says that nothing is lost.
* `scan`: the tokens and the faults with their spans. -/

namespace EntityForge

/-! ### Classes of characters -/

/-- The characters between tokens: space, tab, carriage return, line feed, form feed. -/
def isGapChar (c : Char) : Bool :=
  c = ' ' || c = '\t' || c = '\r' || c = '\n' || c = '\x0c'

/-- A character that can start a word. -/
def isWordStart (c : Char) : Bool :=
  c.isAlpha || c = '_' || c = '$'

/-- A character that can go on a word. -/
def isWordChar (c : Char) : Bool :=
  c.isAlphanum || c = '_' || c = '$'

/-! ### Longest parts -/

/-- The digits at the start of a text. -/
def digitsPart (cs : List Char) : List Char :=
  cs.takeWhile Char.isDigit

/-- A point and at least one digit, or nothing. -/
def fractionPart : List Char → List Char
  | '.' :: cs => if digitsPart cs = [] then [] else '.' :: digitsPart cs
  | _ => []

/-- The sign of an exponent, or nothing. -/
def signPart : List Char → List Char
  | '+' :: _ => ['+']
  | '-' :: _ => ['-']
  | _ => []

/-- An exponent with at least one digit, or nothing. -/
def exponentPart : List Char → List Char
  | [] => []
  | e :: cs =>
    let sign := signPart cs
    let digits := digitsPart (cs.drop sign.length)
    if (e = 'e' ∨ e = 'E') ∧ digits ≠ [] then e :: (sign ++ digits) else []

/-- A number without its sign: digits, then a fraction, then an exponent; nothing without digits. -/
def unsignedPart (cs : List Char) : List Char :=
  let digits := digitsPart cs
  if digits = [] then []
  else
    let whole := digits ++ fractionPart (cs.drop digits.length)
    whole ++ exponentPart (cs.drop whole.length)

/-- **The longest number** at the start of a text, or nothing. -/
def numberPart : List Char → List Char
  | '-' :: cs => if unsignedPart cs = [] then [] else '-' :: unsignedPart cs
  | cs => unsignedPart cs

/-- **The longest word** at the start of a text, or nothing. -/
def wordPart : List Char → List Char
  | [] => []
  | c :: cs => if isWordStart c then c :: cs.takeWhile isWordChar else []

/-- **The inside of a quoted text:** everything up to the closing quote `q`, a line feed, or a
backslash that no character of the line follows. -/
def stringBody (q : Char) : List Char → List Char
  | [] => []
  | '\\' :: c :: cs => if c = '\n' then [] else '\\' :: c :: stringBody q cs
  | c :: cs => if c = q ∨ c = '\\' ∨ c = '\n' then [] else c :: stringBody q cs

/-- The text that the inside of a quoted text stands for. An escape that is not known keeps its
backslash. -/
def decodeEscapes : List Char → List Char
  | [] => []
  | '\\' :: c :: cs =>
    (if c = 'n' then ['\n']
    else if c = 'r' then ['\r']
    else if c = 't' then ['\t']
    else if c = '\\' ∨ c = '"' ∨ c = '\'' then [c]
    else ['\\', c]) ++ decodeEscapes cs
  | c :: cs => c :: decodeEscapes cs

/-! ### Lexemes -/

/-- What is wrong at a place where no token starts. -/
inductive ScanFault where
  | unterminated
  | unexpected (c : Char)
  deriving DecidableEq, Repr

/-- The wording of a fault. -/
def ScanFault.message : ScanFault → String
  | unterminated => "unterminated string literal"
  | unexpected c => "unexpected character: " ++ Text.quoted c.toString

/-- What a lexeme stands for. -/
inductive Meaning where
  | gap
  | token (t : Token)
  | fault (f : ScanFault)
  deriving DecidableEq, Repr

/-- **A piece of text** and what it stands for. -/
structure Lexeme where
  text : List Char
  meaning : Meaning
  deriving DecidableEq, Repr

/-- The lexeme of a quoted text, after the opening quote `q`. -/
def Lexeme.quotedText (q : Char) (cs : List Char) : Lexeme :=
  let body := stringBody q cs
  if (cs.drop body.length).head? = some q then
    ⟨q :: (body ++ [q]), .token (.str (String.ofList (decodeEscapes body)))⟩
  else ⟨q :: body, .fault .unterminated⟩

/-- **The first lexeme** of the text `c :: cs`. -/
def Lexeme.first (c : Char) (cs : List Char) : Lexeme :=
  if isGapChar c then ⟨[c], .gap⟩
  else if c = '/' ∧ cs.head? = some '/' then ⟨c :: cs.takeWhile (· ≠ '\n'), .gap⟩
  else if c = '"' ∨ c = '\'' then Lexeme.quotedText c cs
  else
    match Token.ofMark? c, wordPart (c :: cs), numberPart (c :: cs) with
    | some t, _, _ => ⟨[c], .token t⟩
    | none, w :: ws, _ => ⟨w :: ws, .token (.word (String.ofList (w :: ws)))⟩
    | none, [], d :: ds => ⟨d :: ds, .token (.number (String.ofList (d :: ds)))⟩
    | none, [], [] => ⟨[c], .fault (.unexpected c)⟩

theorem Lexeme.quotedText_text_ne_nil (q : Char) (cs : List Char) :
    (Lexeme.quotedText q cs).text ≠ [] := by
  unfold Lexeme.quotedText
  dsimp only
  split <;> simp

theorem Lexeme.first_text_ne_nil (c : Char) (cs : List Char) : (Lexeme.first c cs).text ≠ [] := by
  unfold Lexeme.first
  repeat' split
  all_goals first | exact Lexeme.quotedText_text_ne_nil c cs | simp

/-- **All lexemes** of a text. -/
def lexemes : List Char → List Lexeme
  | [] => []
  | c :: cs =>
    let first := Lexeme.first c cs
    first :: lexemes ((c :: cs).drop first.text.length)
  termination_by cs => cs.length
  decreasing_by
    have := List.length_pos_iff.2 (Lexeme.first_text_ne_nil c cs)
    simp only [List.length_drop, List.length_cons]
    omega

/-! ### Nothing is lost -/

theorem digitsPart_isPrefix (cs : List Char) : digitsPart cs <+: cs :=
  List.takeWhile_prefix _

theorem fractionPart_isPrefix (cs : List Char) : fractionPart cs <+: cs := by
  unfold fractionPart
  split
  · split
    · exact List.nil_prefix
    · exact List.prefix_cons_inj _ |>.2 (digitsPart_isPrefix _)
  · exact List.nil_prefix

theorem signPart_isPrefix (cs : List Char) : signPart cs <+: cs := by
  unfold signPart
  split <;> simp

/-- Two parts taken one after the other form a part. -/
theorem isPrefix_append_of_drop {as bs cs : List Char} (ha : as <+: cs)
    (hb : bs <+: cs.drop as.length) : as ++ bs <+: cs := by
  obtain ⟨rest, rfl⟩ := ha
  simpa using hb

theorem exponentPart_isPrefix (cs : List Char) : exponentPart cs <+: cs := by
  unfold exponentPart
  split
  · exact List.nil_prefix
  · dsimp only
    split
    · exact List.prefix_cons_inj _ |>.2
        (isPrefix_append_of_drop (signPart_isPrefix _) (digitsPart_isPrefix _))
    · exact List.nil_prefix

theorem unsignedPart_isPrefix (cs : List Char) : unsignedPart cs <+: cs := by
  unfold unsignedPart
  dsimp only
  split
  · exact List.nil_prefix
  · exact isPrefix_append_of_drop
      (isPrefix_append_of_drop (digitsPart_isPrefix _) (fractionPart_isPrefix _))
      (exponentPart_isPrefix _)

theorem numberPart_isPrefix (cs : List Char) : numberPart cs <+: cs := by
  unfold numberPart
  split
  · split
    · exact List.nil_prefix
    · exact List.prefix_cons_inj _ |>.2 (unsignedPart_isPrefix _)
  · exact unsignedPart_isPrefix _

theorem wordPart_isPrefix (cs : List Char) : wordPart cs <+: cs := by
  unfold wordPart
  split
  · exact List.nil_prefix
  · split
    · exact List.prefix_cons_inj _ |>.2 (List.takeWhile_prefix _)
    · exact List.nil_prefix

theorem stringBody_isPrefix (q : Char) (cs : List Char) : stringBody q cs <+: cs := by
  fun_induction stringBody q cs with
  | case1 => exact List.nil_prefix
  | case2 => exact List.nil_prefix
  | case3 c cs _ ih => exact List.prefix_cons_inj _ |>.2 (List.prefix_cons_inj _ |>.2 ih)
  | case4 => exact List.nil_prefix
  | case5 c cs _ _ ih => exact List.prefix_cons_inj _ |>.2 ih

theorem Lexeme.quotedText_isPrefix (q : Char) (cs : List Char) :
    (Lexeme.quotedText q cs).text <+: q :: cs := by
  unfold Lexeme.quotedText
  dsimp only
  split
  · next h =>
    refine List.prefix_cons_inj _ |>.2 (isPrefix_append_of_drop (stringBody_isPrefix q cs) ?_)
    obtain ⟨rest, hr⟩ := List.head?_eq_some_iff.1 h
    simp [hr]
  · exact List.prefix_cons_inj _ |>.2 (stringBody_isPrefix q cs)

theorem Lexeme.first_isPrefix (c : Char) (cs : List Char) :
    (Lexeme.first c cs).text <+: c :: cs := by
  unfold Lexeme.first
  split
  · simp
  · split
    · exact List.prefix_cons_inj _ |>.2 (List.takeWhile_prefix _)
    · split
      · exact Lexeme.quotedText_isPrefix c cs
      · split
        · simp
        · next h => exact h ▸ wordPart_isPrefix (c :: cs)
        · next h => exact h ▸ numberPart_isPrefix (c :: cs)
        · simp

/-- **The lexemes tile the text.** -/
theorem flatten_lexemes (cs : List Char) : ((lexemes cs).map Lexeme.text).flatten = cs := by
  fun_induction lexemes cs with
  | case1 => rfl
  | case2 c cs first ih =>
    obtain ⟨rest, h⟩ := Lexeme.first_isPrefix c cs
    rw [← h, List.drop_left] at ih
    simpa [first, ← h] using ih

/-! ### Spans -/

/-- The lexemes with their spans, the first of them starting at `offset`. -/
def placeFrom (offset : Nat) : List Lexeme → List (Located Meaning)
  | [] => []
  | l :: ls =>
    let stop := offset + byteLength l.text
    ⟨l.meaning, ⟨offset, stop⟩⟩ :: placeFrom stop ls

/-- The token that a placed lexeme is, if any. -/
def Located.token? (m : Located Meaning) : Option (Located Token) :=
  match m.val with
  | .token t => some ⟨t, m.span⟩
  | _ => none

/-- The fault that a placed lexeme is, if any. -/
def Located.fault? (m : Located Meaning) : Option (Located ScanFault) :=
  match m.val with
  | .fault f => some ⟨f, m.span⟩
  | _ => none

/-- The outcome of scanning: the tokens, and the faults that were passed over. -/
structure Scanned where
  tokens : List (Located Token)
  faults : List (Located ScanFault)
  deriving DecidableEq, Repr

/-- **The tokens and faults** of a source text. -/
def scan (source : String) : Scanned :=
  let placed := placeFrom 0 (lexemes source.toList)
  ⟨placed.filterMap Located.token?, placed.filterMap Located.fault?⟩

end EntityForge
