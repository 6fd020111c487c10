import EntityForge.Proofs.Token.Spelling
import EntityForge.Script.Expression

/-! # What a text says

The lexemes of a text without the gaps between them. A text is written piece by piece, and each
lemma here takes one piece off its front: a gap adds nothing, every other piece adds one token, and
then follows what the rest says. A piece that could go on, a word or a number, asks of the rest that
it stop there.

* `meanings`: what a text says.
* `meanings_word`, `meanings_number`, `meanings_quote`: the pieces that are written.
* `scan_of_meanings`: a text that says only tokens scans to them, without a fault.
* `isNumber_of_mem_scan`: every number that is scanned is spelled like one. -/

namespace EntityForge

open Script

/-- **What a text says:** the meanings of its lexemes, without the gaps. -/
def meanings (cs : List Char) : List Meaning :=
  ((lexemes cs).map Lexeme.meaning).filter (· ≠ .gap)

theorem meanings_nil : meanings [] = [] := by
  simp [meanings, lexemes]

theorem Meaning.token_ne_gap (t : Token) : Meaning.token t ≠ .gap := nofun

theorem lexemes_append {c : Char} {cs piece rest : List Char} {m : Meaning}
    (hcs : c :: cs = piece ++ rest) (h : Lexeme.first c cs = ⟨piece, m⟩) :
    lexemes (piece ++ rest) = ⟨piece, m⟩ :: lexemes rest := by
  rw [← hcs, lexemes, h, hcs, List.drop_left]

theorem meanings_append {c : Char} {cs piece rest : List Char} {t : Token}
    (hcs : c :: cs = piece ++ rest) (h : Lexeme.first c cs = ⟨piece, .token t⟩) :
    meanings (piece ++ rest) = .token t :: meanings rest := by
  unfold meanings
  rw [lexemes_append hcs h, List.map_cons, List.filter_cons_of_pos]
  exact decide_eq_true (Meaning.token_ne_gap t)

/-! ### Gaps and marks -/

theorem Lexeme.first_gapChar {c : Char} (h : isGapChar c = true) (rest : List Char) :
    Lexeme.first c rest = ⟨[c], .gap⟩ :=
  if_pos h

theorem meanings_gap {c : Char} (h : isGapChar c = true) (rest : List Char) :
    meanings (c :: rest) = meanings rest := by
  have hlex : lexemes (c :: rest) = _ := lexemes_append rfl (Lexeme.first_gapChar h rest)
  unfold meanings
  rw [hlex, List.map_cons, List.filter_cons_of_neg (by simp)]

theorem meanings_tabs (depth : ℕ) (rest : List Char) :
    meanings ((tabs depth).toList ++ rest) = meanings rest := by
  unfold tabs
  rw [String.toList_ofList]
  induction depth with
  | zero => rfl
  | succ n ih => rw [List.replicate_succ, List.cons_append, meanings_gap (by decide), ih]

theorem Lexeme.first_mark {c : Char} {t : Token} (h : Token.ofMark? c = some t)
    (rest : List Char) : Lexeme.first c rest = ⟨[c], .token t⟩ := by
  unfold Token.ofMark? at h
  split_ifs at h with h₁ h₂ h₃ h₄ h₅ h₆ <;> subst c <;> cases h <;> rfl

theorem meanings_mark {c : Char} {t : Token} (h : Token.ofMark? c = some t) (rest : List Char) :
    meanings (c :: rest) = .token t :: meanings rest :=
  meanings_append rfl (Lexeme.first_mark h rest)

/-! ### Words -/

theorem isWordChar_of_isWordStart {c : Char} (h : isWordStart c = true) : isWordChar c = true := by
  unfold isWordStart at h
  unfold isWordChar Char.isAlphanum
  simp only [Bool.or_eq_true] at h ⊢
  rcases h with (h | h) | h
  · exact Or.inl (Or.inl (Or.inl h))
  · exact Or.inl (Or.inr h)
  · exact Or.inr h

theorem isWordChar_apart {c : Char} (h : isWordChar c = true) :
    isGapChar c = false ∧ c ≠ '/' ∧ ¬ (c = '"' ∨ c = '\'') ∧ Token.ofMark? c = none := by
  have apart : ∀ x : Char, isWordChar x = false → c ≠ x := by
    rintro x hx rfl
    rw [hx] at h
    cases h
  refine ⟨?_, apart _ (by decide), ?_, ?_⟩
  · simp only [isGapChar, Bool.or_eq_false_iff, decide_eq_false_iff_not]
    exact ⟨⟨⟨⟨apart _ (by decide), apart _ (by decide)⟩, apart _ (by decide)⟩,
      apart _ (by decide)⟩, apart _ (by decide)⟩
  · rintro (hc | hc)
    · exact apart _ (by decide) hc
    · exact apart _ (by decide) hc
  · unfold Token.ofMark?
    rw [if_neg (apart _ (by decide)), if_neg (apart _ (by decide)), if_neg (apart _ (by decide)),
      if_neg (apart _ (by decide)), if_neg (apart _ (by decide)), if_neg (apart _ (by decide))]

theorem Lexeme.first_word {c : Char} (h : isWordStart c = true) (cs : List Char) :
    Lexeme.first c cs = ⟨c :: cs.takeWhile isWordChar,
      .token (.word (String.ofList (c :: cs.takeWhile isWordChar)))⟩ := by
  obtain ⟨hgap, hslash, hquote, hmark⟩ := isWordChar_apart (isWordChar_of_isWordStart h)
  unfold Lexeme.first
  rw [hgap, if_neg (by simp), if_neg fun hc => hslash hc.1, if_neg hquote, hmark, wordPart,
    if_pos h]

theorem exists_cons_of_isBareName {name : String} (h : isBareName name = true) :
    ∃ c cs, name.toList = c :: cs ∧ isWordStart c = true ∧ ∀ x ∈ cs, isWordChar x = true := by
  unfold isBareName at h
  split at h
  · cases h
  · next c cs hname =>
    rw [Bool.and_eq_true, List.all_eq_true] at h
    exact ⟨c, cs, hname, h⟩

/-- **A bare name is one word** if the rest cannot go on with it. -/
theorem meanings_word {name : String} (h : isBareName name = true) {rest : List Char}
    (hr : StopsAt isWordChar rest) :
    meanings (name.toList ++ rest) = .token (.word name) :: meanings rest := by
  obtain ⟨c, cs, hname, hstart, hchars⟩ := exists_cons_of_isBareName h
  have hspell : String.ofList (c :: cs) = name := by rw [← hname, String.ofList_toList]
  have hfirst : Lexeme.first c (cs ++ rest) = ⟨c :: cs, .token (.word name)⟩ := by
    rw [Lexeme.first_word hstart, takeWhile_append_of_stopsAt hchars hr, hspell]
  rw [hname]
  exact meanings_append rfl hfirst

/-! ### Numbers -/

theorem isWordStart_of_isDigit {c : Char} (h : c.isDigit = true) : isWordStart c = false := by
  obtain ⟨hlow, hhigh⟩ := Bool.and_eq_true_iff.1 h
  have hlow' : 48 ≤ c.val.toNat := UInt32.le_iff_toNat_le.1 (of_decide_eq_true hlow)
  have hhigh' : c.val.toNat ≤ 57 := UInt32.le_iff_toNat_le.1 (of_decide_eq_true hhigh)
  have halpha : c.isAlpha = false := by
    refine Bool.eq_false_iff.2 fun halpha => ?_
    rcases Bool.or_eq_true_iff.1 halpha with hcase | hcase
    · have hcase' : 65 ≤ c.val.toNat :=
        UInt32.le_iff_toNat_le.1 (of_decide_eq_true hcase).1
      omega
    · have hcase' : 97 ≤ c.val.toNat :=
        UInt32.le_iff_toNat_le.1 (of_decide_eq_true (Bool.and_eq_true_iff.1 hcase).1)
      omega
  have hne : ∀ x : Char, x.isDigit = false → c ≠ x := by
    rintro x hx rfl
    rw [hx] at h
    cases h
  simp only [isWordStart, halpha, Bool.false_or, Bool.or_eq_false_iff, decide_eq_false_iff_not]
  exact ⟨hne _ (by decide), hne _ (by decide)⟩

theorem Lexeme.first_number {c : Char} {cs : List Char} (hc : c = '-' ∨ c.isDigit = true)
    (h : numberPart (c :: cs) ≠ []) :
    Lexeme.first c cs = ⟨numberPart (c :: cs),
      .token (.number (String.ofList (numberPart (c :: cs))))⟩ := by
  obtain ⟨d, ds, hnumber⟩ := List.exists_cons_of_ne_nil h
  rcases hc with rfl | hdigit
  · have hword : wordPart ('-' :: cs) = [] := rfl
    unfold Lexeme.first
    rw [if_neg (by decide), if_neg (by simp), if_neg (by decide), hword, hnumber]
    rfl
  · have hchar : isWordChar c = true := by
      simp only [isWordChar, Char.isAlphanum, hdigit, Bool.or_true, Bool.true_or]
    obtain ⟨hgap, hslash, hquote, hmark⟩ := isWordChar_apart hchar
    have hword : wordPart (c :: cs) = [] := by
      rw [wordPart, isWordStart_of_isDigit hdigit, if_neg (by simp)]
    unfold Lexeme.first
    rw [hgap, if_neg (by simp), if_neg fun hc => hslash hc.1, if_neg hquote, hmark, hword,
      hnumber]

/-- **A number is one token** if the rest cannot go on with it. -/
theorem meanings_number {spelling : String} (h : IsNumber spelling.toList) {rest : List Char}
    (hr : StopsAt isNumberChar rest) :
    meanings (spelling.toList ++ rest) = .token (.number spelling) :: meanings rest := by
  have hnumber := numberPart_append h hr
  obtain ⟨c, cs, hcs, hc⟩ := h.exists_cons
  have hspell : String.ofList (c :: cs) = spelling := by rw [← hcs, String.ofList_toList]
  rw [hcs, List.cons_append] at hnumber
  have hfirst : Lexeme.first c (cs ++ rest) = ⟨c :: cs, .token (.number spelling)⟩ := by
    rw [Lexeme.first_number hc (by simp [hnumber]), hnumber, hspell]
  rw [hcs]
  exact meanings_append rfl hfirst

/-! ### Quoted texts -/

theorem Lexeme.first_quote {q : Char} (h : q = '"' ∨ q = '\'') (cs : List Char) :
    Lexeme.first q cs = Lexeme.quotedText q cs := by
  rcases h with rfl | rfl
  · rfl
  · rfl

theorem stringBody_quoteChar (c : Char) (rest : List Char) :
    stringBody '\'' (quoteChar c ++ rest) = quoteChar c ++ stringBody '\'' rest := by
  unfold quoteChar
  split_ifs with h₁ h₂ h₃ h₄ h₅
  · rfl
  · rfl
  · rfl
  · rfl
  · rfl
  · rw [List.singleton_append, List.singleton_append, stringBody]
    · exact if_neg fun h => h.elim h₂ fun h => h.elim h₁ h₃
    · intro d ds hd
      exact absurd hd h₁

theorem stringBody_quoted (cs rest : List Char) :
    stringBody '\'' (cs.flatMap quoteChar ++ '\'' :: rest) = cs.flatMap quoteChar := by
  induction cs with
  | nil => simp [stringBody]
  | cons c cs ih => rw [List.flatMap_cons, List.append_assoc, stringBody_quoteChar, ih]

theorem decodeEscapes_quoteChar (c : Char) (rest : List Char) :
    decodeEscapes (quoteChar c ++ rest) = c :: decodeEscapes rest := by
  unfold quoteChar
  split_ifs with h₁ h₂ h₃ h₄ h₅
  · subst c; rfl
  · subst c; rfl
  · subst c; rfl
  · subst c; rfl
  · subst c; rfl
  · rw [List.singleton_append, decodeEscapes]
    intro d ds hd
    exact absurd hd h₁

theorem decodeEscapes_quoted (cs : List Char) : decodeEscapes (cs.flatMap quoteChar) = cs := by
  induction cs with
  | nil => rfl
  | cons c cs ih => rw [List.flatMap_cons, decodeEscapes_quoteChar, ih]

/-- **A text in quotes is one token,** whatever characters it has and whatever follows it. -/
theorem meanings_quote (content : String) (rest : List Char) :
    meanings ((quote content).toList ++ rest) = .token (.str content) :: meanings rest := by
  have hpiece : (quote content).toList
      = '\'' :: (content.toList.flatMap quoteChar ++ ['\'']) := by
    simp [quote]
  have hfirst : Lexeme.first '\'' (content.toList.flatMap quoteChar ++ '\'' :: rest)
      = ⟨'\'' :: (content.toList.flatMap quoteChar ++ ['\'']), .token (.str content)⟩ := by
    rw [Lexeme.first_quote (Or.inr rfl)]
    unfold Lexeme.quotedText
    dsimp only
    rw [stringBody_quoted, List.drop_left, if_pos List.head?_cons, decodeEscapes_quoted,
      String.ofList_toList]
  rw [hpiece]
  exact meanings_append (by simp) hfirst

/-! ### Scanning -/

theorem placeFrom_of_tokens : ∀ (ls : List Lexeme) (offset : ℕ) (ts : List Token),
    (ls.map Lexeme.meaning).filter (· ≠ .gap) = ts.map .token →
    (placeFrom offset ls).filterMap Located.fault? = [] ∧
      ((placeFrom offset ls).filterMap Located.token?).map Located.val = ts
  | [], offset, ts, h => by
    rw [List.map_eq_nil_iff.1 h.symm]
    exact ⟨rfl, rfl⟩
  | ⟨text, .gap⟩ :: ls, offset, ts, h => placeFrom_of_tokens ls _ ts h
  | ⟨text, .fault f⟩ :: ls, offset, ts, h => by
    rcases ts with _ | ⟨t, ts⟩
    · cases h
    · cases List.head_eq_of_cons_eq h
  | ⟨text, .token t⟩ :: ls, offset, [], h => by cases h
  | ⟨text, .token t⟩ :: ls, offset, u :: ts, h => by
    cases List.head_eq_of_cons_eq h
    obtain ⟨hfaults, htokens⟩ := placeFrom_of_tokens ls (offset + byteLength text) ts
      (List.tail_eq_of_cons_eq h)
    exact ⟨hfaults, congrArg (t :: ·) htokens⟩

/-- **A text that says only tokens** scans to these tokens without a fault. -/
theorem scan_of_meanings {source : String} {ts : List Token}
    (h : meanings source.toList = ts.map .token) :
    (scan source).faults = [] ∧ (scan source).tokens.map Located.val = ts :=
  placeFrom_of_tokens _ 0 ts h

theorem isNumber_of_first {c : Char} {cs : List Char} {n : String}
    (h : (Lexeme.first c cs).meaning = .token (.number n)) : IsNumber n.toList := by
  unfold Lexeme.first at h
  split_ifs at h
  · unfold Lexeme.quotedText at h
    dsimp only at h
    split_ifs at h
    cases h
  · split at h
    · next hmark =>
      cases h
      unfold Token.ofMark? at hmark
      split_ifs at hmark <;> cases hmark
    · cases h
    · next hnumber =>
      cases h
      rw [String.toList_ofList, ← hnumber]
      exact isNumber_numberPart (by simp [hnumber])
    · cases h

theorem exists_first_of_mem_lexemes {cs : List Char} {l : Lexeme} (hl : l ∈ lexemes cs) :
    ∃ c rest, l = Lexeme.first c rest := by
  fun_induction lexemes cs with
  | case1 => cases hl
  | case2 c cs first ih =>
    rcases List.mem_cons.1 hl with rfl | hl
    · exact ⟨c, cs, rfl⟩
    · exact ih hl

theorem exists_lexeme_of_mem_placeFrom {m : Located Meaning} : ∀ {ls : List Lexeme} {offset : ℕ},
    m ∈ placeFrom offset ls → ∃ l ∈ ls, l.meaning = m.val
  | [], _, h => by cases h
  | l :: ls, offset, h => by
    rcases List.mem_cons.1 h with rfl | h
    · exact ⟨l, List.mem_cons_self, rfl⟩
    · obtain ⟨l', hl', hm⟩ := exists_lexeme_of_mem_placeFrom h
      exact ⟨l', List.mem_cons_of_mem l hl', hm⟩

theorem exists_first_of_mem_scan {source : String} {t : Located Token}
    (ht : t ∈ (scan source).tokens) : ∃ c cs, (Lexeme.first c cs).meaning = .token t.val := by
  obtain ⟨m, hm, htoken⟩ := List.mem_filterMap.1 ht
  obtain ⟨l, hl, hmeaning⟩ := exists_lexeme_of_mem_placeFrom hm
  obtain ⟨c, cs, rfl⟩ := exists_first_of_mem_lexemes hl
  unfold Located.token? at htoken
  split at htoken
  · next u hu =>
    cases htoken
    exact ⟨c, cs, hmeaning.trans hu⟩
  · cases htoken

/-- **Every number that is scanned is spelled like one.** -/
theorem isNumber_of_mem_scan {source : String} {t : Located Token} {n : String}
    (ht : t ∈ (scan source).tokens) (hn : t.val = .number n) : IsNumber n.toList := by
  obtain ⟨c, cs, hfirst⟩ := exists_first_of_mem_scan ht
  exact isNumber_of_first (hfirst.trans (congrArg Meaning.token hn))

end EntityForge
