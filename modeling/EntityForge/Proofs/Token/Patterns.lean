import EntityForge.Proofs.Token.Meanings
import Mathlib.Computability.Language

/-! # The patterns of the scanner

What may stand between tokens and what spells a token are regular languages, here written as such,
one pattern per kind. The scanner itself has no patterns, only a choice by the first character and
the longest parts of each kind. Here its choice is compared with the patterns: where a pattern
matches, the scanner takes a token at least as long, and what it takes matches.

* `Token.pattern`, `blankPattern`, `commentPattern`: the patterns; `lexical` is all of them.
* `Token.Carries`: what a token keeps of its text; `Unescapes` says it of the inside of quotes.
* `isPrefix_numberPart`: no number at the start of a text is longer than the one that is taken.
* `stringBody_append`, `exists_stringBody`: where the inside of quotes ends.
* `Lexeme.exists_token_of_pattern`: what is taken where a pattern matches. -/

namespace EntityForge

open scoped Computability

/-! ### Languages -/

/-- One character of a class. -/
def oneOf (p : Char → Prop) : Language Char :=
  {cs | ∃ c, p c ∧ cs = [c]}

/-- `[ \t\r\n\f]+`. -/
def blankPattern : Language Char :=
  (oneOf fun c => isGapChar c) * (oneOf fun c => isGapChar c)∗

/-- `//[^\n]*`. -/
def commentPattern : Language Char :=
  oneOf (· = '/') * oneOf (· = '/') * (oneOf (· ≠ '\n'))∗

/-- `[^q\\\n]|\\.`, between quotes `q`. -/
def insidePattern (q : Char) : Language Char :=
  oneOf (fun c => c ≠ q ∧ c ≠ '\\' ∧ c ≠ '\n') + oneOf (· = '\\') * oneOf (· ≠ '\n')

/-- `q([^q\\\n]|\\.)*q`. -/
def quotedPattern (q : Char) : Language Char :=
  oneOf (· = q) * (insidePattern q)∗ * oneOf (· = q)

/-- `[0-9]+`. -/
def digitsPattern : Language Char :=
  (oneOf fun c => c.isDigit) * (oneOf fun c => c.isDigit)∗

/-- `-?[0-9]+(\.[0-9]+)?([eE][+-]?[0-9]+)?`. -/
def numberPattern : Language Char :=
  (1 + oneOf (· = '-')) * digitsPattern * (1 + oneOf (· = '.') * digitsPattern) *
    (1 + oneOf (fun c => c = 'e' ∨ c = 'E') * (1 + oneOf (fun c => c = '+' ∨ c = '-')) *
      digitsPattern)

/-- `[A-Za-z_$][A-Za-z0-9_$]*`. -/
def wordPattern : Language Char :=
  (oneOf fun c => isWordStart c) * (oneOf fun c => isWordChar c)∗

/-- **The pattern of a token,** by its kind. -/
def Token.pattern : Token → Language Char
  | lbrace => oneOf (· = '\x7b')
  | rbrace => oneOf (· = '\x7d')
  | lbracket => oneOf (· = '[')
  | rbracket => oneOf (· = ']')
  | colon => oneOf (· = ':')
  | comma => oneOf (· = ',')
  | str _ => quotedPattern '"' + quotedPattern '\''
  | number _ => numberPattern
  | word _ => wordPattern

/-- **All patterns together,** those of what is skipped and those of tokens. -/
def lexical : Language Char :=
  {cs | cs ∈ blankPattern ∨ cs ∈ commentPattern ∨ ∃ t : Token, cs ∈ t.pattern}

/-! ### What a token keeps of its text -/

/-- What a backslash and a character stand for: an escape that is not known stands for itself. -/
def escapeMeaning (c : Char) : List Char :=
  match c with
  | 'n' => ['\n']
  | 'r' => ['\r']
  | 't' => ['\t']
  | '\\' => ['\\']
  | '"' => ['"']
  | '\'' => ['\'']
  | c => ['\\', c]

/-- **The inside of quotes and what it stands for.** -/
inductive Unescapes : List Char → List Char → Prop
  | nil : Unescapes [] []
  | plain {c : Char} {cs ds : List Char} (hc : c ≠ '\\') (h : Unescapes cs ds) :
      Unescapes (c :: cs) (c :: ds)
  | escape {c : Char} {cs ds : List Char} (h : Unescapes cs ds) :
      Unescapes ('\\' :: c :: cs) (escapeMeaning c ++ ds)

/-- **What a token keeps of its text:** a word or a number all of it, a quoted text what stands
between its quotes, unescaped. -/
def Token.Carries : Token → List Char → Prop
  | str content, cs => ∃ q body, cs = q :: (body ++ [q]) ∧ Unescapes body content.toList
  | number spelling, cs => spelling.toList = cs
  | word spelling, cs => spelling.toList = cs
  | _, _ => True

theorem decodeEscapes_escape (c : Char) (cs : List Char) :
    decodeEscapes ('\\' :: c :: cs) = escapeMeaning c ++ decodeEscapes cs := by
  rw [decodeEscapes]
  congr 1
  symm
  unfold escapeMeaning
  split
  case h_7 hn hr ht hback hdouble hsingle =>
    rw [if_neg hn, if_neg hr, if_neg ht,
      if_neg fun h => h.elim hback fun h => h.elim hdouble hsingle]
  all_goals rfl

theorem decodeEscapes_plain {c : Char} (h : c ≠ '\\') (cs : List Char) :
    decodeEscapes (c :: cs) = c :: decodeEscapes cs := by
  rw [decodeEscapes]
  intro d ds hc
  exact absurd hc h

theorem Unescapes.eq_decodeEscapes {cs ds : List Char} (h : Unescapes cs ds) :
    ds = decodeEscapes cs := by
  induction h with
  | nil => rfl
  | plain hc _ ih => rw [decodeEscapes_plain hc, ih]
  | escape _ ih => rw [decodeEscapes_escape, ih]

/-! ### Membership -/

section Membership
variable {p : Char → Prop} {L : Language Char} {cs : List Char}

theorem mem_oneOf_mul : cs ∈ oneOf p * L ↔ ∃ c ds, p c ∧ ds ∈ L ∧ cs = c :: ds := by
  rw [Language.mem_mul]
  constructor
  · rintro ⟨_, ⟨c, hc, rfl⟩, ds, hds, rfl⟩
    exact ⟨c, ds, hc, hds, rfl⟩
  · rintro ⟨c, ds, hc, hds, rfl⟩
    exact ⟨[c], ⟨c, hc, rfl⟩, ds, hds, rfl⟩

theorem mem_kstar_oneOf : cs ∈ (oneOf p)∗ ↔ ∀ c ∈ cs, p c := by
  rw [Language.mem_kstar]
  constructor
  · rintro ⟨pieces, rfl, hpieces⟩ c hc
    obtain ⟨piece, hpiece, hc⟩ := List.mem_flatten.1 hc
    obtain ⟨d, hd, rfl⟩ := hpieces piece hpiece
    rwa [List.mem_singleton.1 hc]
  · intro h
    refine ⟨cs.map fun c => [c], by simp [← List.flatMap_def], fun piece hpiece => ?_⟩
    obtain ⟨c, hc, rfl⟩ := List.mem_map.1 hpiece
    exact ⟨c, h c hc, rfl⟩

theorem mem_optional : cs ∈ 1 + L ↔ cs = [] ∨ cs ∈ L := by
  rw [Language.mem_add, Language.mem_one]

theorem mem_oneOf_mul_kstar : cs ∈ oneOf p * (oneOf p)∗ ↔ cs ≠ [] ∧ ∀ c ∈ cs, p c := by
  simp only [mem_oneOf_mul, mem_kstar_oneOf]
  constructor
  · rintro ⟨c, ds, hc, hds, rfl⟩
    exact ⟨List.cons_ne_nil c ds, List.forall_mem_cons.2 ⟨hc, hds⟩⟩
  · rintro ⟨hne, h⟩
    obtain ⟨c, ds, rfl⟩ := List.exists_cons_of_ne_nil hne
    exact ⟨c, ds, (List.forall_mem_cons.1 h).1, (List.forall_mem_cons.1 h).2, rfl⟩

theorem mem_blankPattern : cs ∈ blankPattern ↔ cs ≠ [] ∧ ∀ c ∈ cs, isGapChar c = true :=
  mem_oneOf_mul_kstar

theorem mem_commentPattern :
    cs ∈ commentPattern ↔ ∃ line, '\n' ∉ line ∧ cs = '/' :: '/' :: line := by
  simp only [commentPattern, mul_assoc, mem_oneOf_mul, mem_kstar_oneOf]
  constructor
  · rintro ⟨_, _, rfl, ⟨_, line, rfl, hline, rfl⟩, rfl⟩
    exact ⟨line, fun h => hline _ h rfl, rfl⟩
  · rintro ⟨line, hline, rfl⟩
    exact ⟨_, _, rfl, ⟨_, line, rfl, fun c hc hn => hline (hn ▸ hc), rfl⟩, rfl⟩

theorem mem_wordPattern : cs ∈ wordPattern ↔
    ∃ c ds, isWordStart c = true ∧ (∀ d ∈ ds, isWordChar d = true) ∧ cs = c :: ds := by
  simp only [wordPattern, mem_oneOf_mul, mem_kstar_oneOf]

theorem isWordChar_of_mem_wordPattern (h : cs ∈ wordPattern) : ∀ c ∈ cs, isWordChar c = true := by
  obtain ⟨d, ds, hstart, hgo, rfl⟩ := mem_wordPattern.1 h
  exact List.forall_mem_cons.2 ⟨isWordChar_of_isWordStart hstart, hgo⟩

theorem mem_digitsPattern : cs ∈ digitsPattern ↔ IsDigits cs :=
  mem_oneOf_mul_kstar

theorem mem_numberPattern : cs ∈ numberPattern ↔ IsNumber cs := by
  simp only [numberPattern, mul_assoc, Language.mem_mul, mem_optional, mem_digitsPattern]
  constructor
  · rintro ⟨minus, hminus, _, ⟨digits, hdigits, _, ⟨fraction, hfraction, exponent, hexponent, rfl⟩,
      rfl⟩, rfl⟩
    refine ⟨minus, digits, fraction, exponent, ?_, hdigits, ?_, ?_, rfl⟩
    · exact hminus.imp_right fun ⟨_, hc, h⟩ => hc ▸ h
    · refine hfraction.imp_right ?_
      rintro ⟨_, ⟨_, rfl, rfl⟩, digits, hdigits, rfl⟩
      exact ⟨digits, hdigits, rfl⟩
    · refine hexponent.imp_right ?_
      rintro ⟨_, ⟨e, he, rfl⟩, _, ⟨sign, hsign, digits, hdigits, rfl⟩, rfl⟩
      refine ⟨e, sign, digits, he, hsign.imp_right ?_, hdigits, rfl⟩
      rintro ⟨c, rfl | rfl, rfl⟩
      · exact Or.inl rfl
      · exact Or.inr rfl
  · rintro ⟨minus, digits, fraction, exponent, hminus, hdigits, hfraction, hexponent, rfl⟩
    refine ⟨minus, ?_, _, ⟨digits, hdigits, _, ⟨fraction, ?_, exponent, ?_, rfl⟩, rfl⟩, rfl⟩
    · exact hminus.imp_right fun h => ⟨'-', rfl, h⟩
    · refine hfraction.imp_right ?_
      rintro ⟨digits, hdigits, rfl⟩
      exact ⟨['.'], ⟨'.', rfl, rfl⟩, digits, hdigits, rfl⟩
    · refine hexponent.imp_right ?_
      rintro ⟨e, sign, digits, he, hsign, hdigits, rfl⟩
      refine ⟨[e], ⟨e, he, rfl⟩, _, ⟨sign, hsign.imp_right ?_, digits, hdigits, rfl⟩, rfl⟩
      rintro (rfl | rfl)
      · exact ⟨'+', Or.inl rfl, rfl⟩
      · exact ⟨'-', Or.inr rfl, rfl⟩

theorem mem_quotedPattern {q : Char} : cs ∈ quotedPattern q ↔
    ∃ body ∈ (insidePattern q)∗, cs = q :: (body ++ [q]) := by
  rw [quotedPattern, mul_assoc, mem_oneOf_mul]
  simp only [Language.mem_mul]
  constructor
  · rintro ⟨_, _, rfl, ⟨body, hbody, _, ⟨_, rfl, rfl⟩, rfl⟩, rfl⟩
    exact ⟨body, hbody, rfl⟩
  · rintro ⟨body, hbody, rfl⟩
    exact ⟨q, _, rfl, ⟨body, hbody, [q], ⟨q, rfl, rfl⟩, rfl⟩, rfl⟩

end Membership

theorem insidePattern_induct {q : Char} {motive : List Char → Prop} (nil : motive [])
    (plain : ∀ c cs, c ≠ q → c ≠ '\\' → c ≠ '\n' → cs ∈ (insidePattern q)∗ → motive cs →
      motive (c :: cs))
    (escape : ∀ c cs, c ≠ '\n' → cs ∈ (insidePattern q)∗ → motive cs → motive ('\\' :: c :: cs))
    {cs : List Char} (h : cs ∈ (insidePattern q)∗) : motive cs := by
  obtain ⟨pieces, rfl, hpieces⟩ := Language.mem_kstar.1 h
  clear h
  induction pieces with
  | nil => exact nil
  | cons piece pieces ih =>
    obtain ⟨hpiece, hrest⟩ := List.forall_mem_cons.1 hpieces
    have hstar := Language.join_mem_kstar hrest
    rw [List.flatten_cons]
    rcases hpiece with ⟨c, ⟨hq, hback, hline⟩, rfl⟩ | hescape
    · exact plain c _ hq hback hline hstar (ih hrest)
    · obtain ⟨_, _, rfl, ⟨c, hline, rfl⟩, rfl⟩ := mem_oneOf_mul.1 hescape
      exact escape c _ hline hstar (ih hrest)

theorem unescapes_decodeEscapes {q : Char} {cs : List Char} (h : cs ∈ (insidePattern q)∗) :
    Unescapes cs (decodeEscapes cs) := by
  refine insidePattern_induct (motive := fun cs => Unescapes cs (decodeEscapes cs)) .nil
    (fun c cs _ hback _ _ ih => ?_) (fun c cs _ _ ih => ?_) h
  · rw [decodeEscapes_plain hback]
    exact .plain hback ih
  · rw [decodeEscapes_escape]
    exact .escape ih

/-! ### The longest number -/

theorem isPrefix_digitsPart {digits : List Char} (h : IsDigits digits) (rest : List Char) :
    digits <+: digitsPart (digits ++ rest) := by
  unfold digitsPart
  rw [List.takeWhile_append_of_pos h.2]
  exact List.prefix_append _ _

theorem IsDigits.digitsPart_ne_nil {digits : List Char} (h : IsDigits digits) (rest : List Char) :
    digitsPart (digits ++ rest) ≠ [] := by
  intro hnil
  have hpart := isPrefix_digitsPart h rest
  rw [hnil, List.prefix_nil] at hpart
  exact h.1 hpart

theorem isPrefix_exponentPart {exponent : List Char} (h : IsExponent exponent)
    (rest : List Char) : exponent <+: exponentPart (exponent ++ rest) := by
  rcases h with rfl | ⟨e, sign, digits, he, hsign, hdigits, rfl⟩
  · exact List.nil_prefix
  · rw [List.cons_append, List.append_assoc]
    unfold exponentPart
    dsimp only
    rw [signPart_append hsign hdigits, List.drop_left,
      if_pos ⟨he, hdigits.digitsPart_ne_nil rest⟩]
    exact List.prefix_cons_inj _ |>.2
      ((List.prefix_append_right_inj sign).2 (isPrefix_digitsPart hdigits rest))

theorem isPrefix_fractionPart {fraction : List Char} (h : IsFraction fraction)
    (rest : List Char) : fraction <+: fractionPart (fraction ++ rest) := by
  rcases h with rfl | ⟨digits, hdigits, rfl⟩
  · exact List.nil_prefix
  · rw [List.cons_append, fractionPart, if_neg (hdigits.digitsPart_ne_nil rest)]
    exact List.prefix_cons_inj _ |>.2 (isPrefix_digitsPart hdigits rest)

theorem IsExponent.stopsAt_of_ne_nil {exponent : List Char} (h : IsExponent exponent)
    (hne : exponent ≠ []) (rest : List Char) :
    StopsAt (fun c => c.isDigit || c = '.') (exponent ++ rest) := by
  rcases h with rfl | ⟨e, sign, digits, rfl | rfl, -, -, rfl⟩
  · exact absurd rfl hne
  · exact stopsAt_cons.2 (by decide)
  · exact stopsAt_cons.2 (by decide)

theorem stopsAt_fraction_append {fraction exponent : List Char} (hf : IsFraction fraction)
    (he : IsExponent exponent) (hne : fraction ++ exponent ≠ []) (rest : List Char) :
    StopsAt Char.isDigit (fraction ++ (exponent ++ rest)) := by
  rcases hf with rfl | ⟨digits, -, rfl⟩
  · intro c hc
    exact (Bool.or_eq_false_iff.1 (he.stopsAt_of_ne_nil hne rest c hc)).1
  · exact stopsAt_cons.2 (by decide)

/-- The fraction and the exponent that are taken are the longest together, too: a longer fraction
leaves no place for an exponent. -/
theorem isPrefix_fraction_exponent {fraction exponent : List Char} (hf : IsFraction fraction)
    (he : IsExponent exponent) {text rest : List Char}
    (htext : text = fraction ++ (exponent ++ rest)) :
    fraction ++ exponent <+:
      fractionPart text ++ exponentPart (text.drop (fractionPart text).length) := by
  subst htext
  by_cases hne : exponent = []
  · subst hne
    rw [List.append_nil, List.nil_append]
    exact (isPrefix_fractionPart hf rest).trans (List.prefix_append _ _)
  · rw [fractionPart_append hf (he.stopsAt_of_ne_nil hne rest), List.drop_left]
    exact (List.prefix_append_right_inj fraction).2 (isPrefix_exponentPart he rest)

theorem isPrefix_unsignedPart {digits fraction exponent : List Char} (hd : IsDigits digits)
    (hf : IsFraction fraction) (he : IsExponent exponent) (rest : List Char) :
    digits ++ (fraction ++ exponent) <+:
      unsignedPart (digits ++ (fraction ++ (exponent ++ rest))) := by
  unfold unsignedPart
  dsimp only
  rw [if_neg (hd.digitsPart_ne_nil _)]
  by_cases hne : fraction ++ exponent = []
  · rw [hne, List.append_nil, List.append_assoc]
    exact (isPrefix_digitsPart hd _).trans (List.prefix_append _ _)
  · rw [digitsPart_append hd (stopsAt_fraction_append hf he hne rest), List.drop_left,
      List.length_append, ← List.drop_drop, List.drop_left, List.append_assoc]
    exact (List.prefix_append_right_inj digits).2 (isPrefix_fraction_exponent hf he rfl)

/-- **No number at the start of a text is longer** than the one that is taken. -/
theorem isPrefix_numberPart {cs : List Char} (h : IsNumber cs) (rest : List Char) :
    cs <+: numberPart (cs ++ rest) := by
  obtain ⟨minus, digits, fraction, exponent, hm, hd, hf, he, rfl⟩ := h
  have hpart := isPrefix_unsignedPart hd hf he rest
  simp only [List.append_assoc]
  rcases hm with rfl | rfl
  · rw [List.nil_append, List.nil_append, numberPart]
    · exact hpart
    · -- A digit stands where the minus would.
      intro ds hds
      obtain ⟨d, digits, rfl⟩ := List.exists_cons_of_ne_nil hd.1
      cases List.head_eq_of_cons_eq hds
      exact absurd (hd.2 _ List.mem_cons_self) (by decide)
  · have hne : unsignedPart (digits ++ (fraction ++ (exponent ++ rest))) ≠ [] := by
      intro hnil
      rw [hnil, List.prefix_nil, List.append_eq_nil_iff] at hpart
      exact hd.1 hpart.1
    rw [List.singleton_append, List.singleton_append, numberPart, if_neg hne]
    exact List.prefix_cons_inj _ |>.2 hpart

/-! ### Where the inside of quotes ends -/

/-- Nothing is left of the line. -/
def AtLineEnd (rest : List Char) : Prop :=
  ∀ c ∈ rest.head?, c = '\n'

/-- The line ends here, or behind a backslash. -/
def Unclosed (rest : List Char) : Prop :=
  AtLineEnd rest ∨ ∃ more, rest = '\\' :: more ∧ AtLineEnd more

theorem stringBody_plain {q c : Char} (hq : c ≠ q) (hback : c ≠ '\\') (hline : c ≠ '\n')
    (cs : List Char) : stringBody q (c :: cs) = c :: stringBody q cs := by
  rw [stringBody]
  · exact if_neg fun h => h.elim hq fun h => h.elim hback hline
  · intro d ds hc
    exact absurd hc hback

theorem stringBody_append {q : Char} {body : List Char} (h : body ∈ (insidePattern q)∗)
    (rest : List Char) : stringBody q (body ++ rest) = body ++ stringBody q rest := by
  refine insidePattern_induct
    (motive := fun body => stringBody q (body ++ rest) = body ++ stringBody q rest) rfl
    (fun c cs hq hback hline _ ih => ?_) (fun c cs hline _ ih => ?_) h
  · rw [List.cons_append, stringBody_plain hq hback hline, ih, List.cons_append]
  · rw [List.cons_append, List.cons_append, stringBody, if_neg hline, ih, List.cons_append,
      List.cons_append]

theorem stringBody_unclosed {q : Char} {rest : List Char} (h : Unclosed rest) :
    stringBody q rest = [] := by
  rcases h with h | ⟨more, rfl, h⟩
  · rcases rest with _ | ⟨c, rest⟩
    · rfl
    · obtain rfl := h c rfl
      exact if_pos (Or.inr (Or.inr rfl))
  · rcases more with _ | ⟨c, more⟩
    · exact if_pos (Or.inr (Or.inl rfl))
    · obtain rfl := h c rfl
      exact if_pos rfl

theorem stringBody_closed {q : Char} (h : q = '"' ∨ q = '\'') (rest : List Char) :
    stringBody q (q :: rest) = [] := by
  rcases h with rfl | rfl
  · exact if_pos (Or.inl rfl)
  · exact if_pos (Or.inl rfl)

/-- **The inside of quotes** ends before a quote, or where the line leaves it unclosed. -/
theorem exists_stringBody (q : Char) (cs : List Char) :
    stringBody q cs ∈ (insidePattern q)∗ ∧ ∃ rest, cs = stringBody q cs ++ rest ∧
      (rest.head? = some q ∨ Unclosed rest) := by
  have hcons : ∀ piece body : List Char, piece ∈ insidePattern q → body ∈ (insidePattern q)∗ →
      piece ++ body ∈ (insidePattern q)∗ := fun piece body hpiece hbody => by
    rw [← Language.one_add_self_mul_kstar_eq_kstar]
    exact Or.inr (Language.append_mem_mul hpiece hbody)
  fun_induction stringBody q cs with
  | case1 => exact ⟨Language.nil_mem_kstar _, [], rfl, Or.inr (Or.inl (by simp [AtLineEnd]))⟩
  | case2 cs =>
    exact ⟨Language.nil_mem_kstar _, _, rfl, Or.inr (Or.inr ⟨_, rfl, by simp [AtLineEnd]⟩)⟩
  | case3 c cs hline ih =>
    obtain ⟨hbody, rest, hcs, hrest⟩ := ih
    refine ⟨hcons ['\\', c] _ (Or.inr ?_) hbody, rest, ?_, hrest⟩
    · exact mem_oneOf_mul.2 ⟨'\\', [c], rfl, ⟨c, hline, rfl⟩, rfl⟩
    · rw [List.cons_append, List.cons_append, ← hcs]
  | case4 c cs hescape hstop =>
    refine ⟨Language.nil_mem_kstar _, _, rfl, ?_⟩
    rcases hstop with rfl | rfl | rfl
    · exact Or.inl rfl
    · -- A backslash with a character behind it would have been an escape.
      rcases cs with _ | ⟨d, cs⟩
      · exact Or.inr (Or.inr ⟨[], rfl, by simp [AtLineEnd]⟩)
      · exact absurd rfl (hescape d cs rfl)
    · exact Or.inr (Or.inl (by simp [AtLineEnd]))
  | case5 c cs hescape hgo ih =>
    obtain ⟨hbody, rest, hcs, hrest⟩ := ih
    rw [not_or, not_or] at hgo
    refine ⟨hcons [c] _ (Or.inl ⟨c, hgo, rfl⟩) hbody, rest, ?_, hrest⟩
    rw [List.cons_append, ← hcs]

/-! ### Where a pattern matches -/

theorem Token.cases_of_mem_pattern {t : Token} {cs : List Char} (h : cs ∈ t.pattern) :
    (∃ c, Token.ofMark? c = some t ∧ cs = [c]) ∨
    (∃ content q, t = .str content ∧ (q = '"' ∨ q = '\'') ∧ cs ∈ quotedPattern q) ∨
    (∃ spelling, t = .number spelling ∧ cs ∈ numberPattern) ∨
    ∃ spelling, t = .word spelling ∧ cs ∈ wordPattern := by
  cases t with
  | str content =>
    rcases h with h | h
    · exact Or.inr (Or.inl ⟨content, '"', rfl, Or.inl rfl, h⟩)
    · exact Or.inr (Or.inl ⟨content, '\'', rfl, Or.inr rfl, h⟩)
  | number spelling => exact Or.inr (Or.inr (Or.inl ⟨spelling, rfl, h⟩))
  | word spelling => exact Or.inr (Or.inr (Or.inr ⟨spelling, rfl, h⟩))
  | _ =>
    obtain ⟨c, rfl, rfl⟩ := h
    exact Or.inl ⟨_, rfl, rfl⟩

theorem Lexeme.quotedText_closed {q : Char} {body : List Char} (hq : q = '"' ∨ q = '\'')
    (hbody : body ∈ (insidePattern q)∗) (rest : List Char) :
    Lexeme.quotedText q (body ++ q :: rest)
      = ⟨q :: (body ++ [q]), .token (.str (String.ofList (decodeEscapes body)))⟩ := by
  unfold Lexeme.quotedText
  dsimp only
  rw [stringBody_append hbody, stringBody_closed hq, List.append_nil, List.drop_left,
    if_pos List.head?_cons]

theorem Lexeme.quotedText_unclosed {q : Char} {body rest : List Char} (hq : q = '"' ∨ q = '\'')
    (hbody : body ∈ (insidePattern q)∗) (hrest : Unclosed rest) :
    Lexeme.quotedText q (body ++ rest) = ⟨q :: body, .fault .unterminated⟩ := by
  have hhead : rest.head? ≠ some q := by
    intro hhead
    rcases hrest with hend | ⟨more, rfl, -⟩
    · obtain rfl := hend q hhead
      exact absurd hq (by decide)
    · cases hhead
      exact absurd hq (by decide)
  unfold Lexeme.quotedText
  dsimp only
  rw [stringBody_append hbody, stringBody_unclosed hrest, List.append_nil, List.drop_left,
    if_neg hhead]

/-- **Where the pattern of a token matches, a token is taken,** one that is at least as long; and if
it is as long, it is the token that keeps this text. -/
theorem Lexeme.exists_token_of_pattern {t : Token} {piece cs : List Char} {c : Char}
    (h : piece ∈ t.pattern) (hpiece : piece <+: c :: cs) :
    ∃ u, (Lexeme.first c cs).meaning = .token u ∧ piece <+: (Lexeme.first c cs).text ∧
      (t.Carries piece → (Lexeme.first c cs).text = piece → u = t) := by
  obtain ⟨rest, hrest⟩ := hpiece
  rcases t.cases_of_mem_pattern h with ⟨d, hmark, rfl⟩ | ⟨content, q, rfl, hq, hquoted⟩ |
    ⟨spelling, rfl, hnumber⟩ | ⟨spelling, rfl, hword⟩
  · cases hrest
    rw [Lexeme.first_mark hmark]
    exact ⟨t, rfl, List.prefix_rfl, fun _ _ => rfl⟩
  · obtain ⟨body, hbody, rfl⟩ := mem_quotedPattern.1 hquoted
    rw [List.cons_append, List.append_assoc] at hrest
    cases hrest
    rw [Lexeme.first_quote hq, List.singleton_append, Lexeme.quotedText_closed hq hbody]
    refine ⟨_, rfl, List.prefix_rfl, fun ⟨q', body', hcs, hcontent⟩ _ => ?_⟩
    obtain ⟨rfl, hbody'⟩ := List.cons.inj hcs
    obtain ⟨rfl, -⟩ := List.append_inj' hbody' rfl
    rw [← hcontent.eq_decodeEscapes, String.ofList_toList]
  · rw [mem_numberPattern] at hnumber
    obtain ⟨d, ds, rfl, hd⟩ := hnumber.exists_cons
    have hpart := isPrefix_numberPart hnumber rest
    rw [hrest] at hpart
    cases List.head_eq_of_cons_eq hrest
    have hne : numberPart (c :: cs) ≠ [] := fun hnil => by simp [hnil] at hpart
    rw [Lexeme.first_number hd hne]
    refine ⟨_, rfl, hpart, fun hcarries htext => ?_⟩
    have hspelling : spelling.toList = numberPart (c :: cs) := hcarries.trans htext.symm
    rw [← hspelling, String.ofList_toList]
  · obtain ⟨d, ds, hd, hds, rfl⟩ := mem_wordPattern.1 hword
    rw [List.cons_append] at hrest
    cases hrest
    rw [Lexeme.first_word hd]
    refine ⟨_, rfl, ?_, fun hcarries htext => ?_⟩
    · rw [List.takeWhile_append_of_pos hds]
      exact List.prefix_append _ _
    · have hspelling : spelling.toList = c :: (ds ++ rest).takeWhile isWordChar :=
        hcarries.trans htext.symm
      rw [← hspelling, String.ofList_toList]

theorem Lexeme.meaning_of_blank {piece cs : List Char} {c : Char} (h : piece ∈ blankPattern)
    (hpiece : piece <+: c :: cs) : (Lexeme.first c cs).meaning = .gap := by
  obtain ⟨hne, hgap⟩ := mem_blankPattern.1 h
  obtain ⟨d, ds, rfl⟩ := List.exists_cons_of_ne_nil hne
  obtain ⟨rfl, -⟩ := List.cons_prefix_cons.1 hpiece
  rw [Lexeme.first_gapChar (hgap d List.mem_cons_self)]

theorem Lexeme.first_comment (cs : List Char) : Lexeme.first '/' ('/' :: cs)
    = ⟨'/' :: '/' :: cs.takeWhile (· ≠ '\n'), .gap⟩ := rfl

theorem Lexeme.meaning_of_comment {piece cs : List Char} {c : Char} (h : piece ∈ commentPattern)
    (hpiece : piece <+: c :: cs) : (Lexeme.first c cs).meaning = .gap := by
  obtain ⟨line, -, rfl⟩ := mem_commentPattern.1 h
  obtain ⟨rest, hrest⟩ := hpiece
  rw [List.cons_append, List.cons_append] at hrest
  cases hrest
  rw [Lexeme.first_comment]

end EntityForge
