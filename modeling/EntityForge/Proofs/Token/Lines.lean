import EntityForge.Proofs.Token.Patterns

/-! # Scanning line by line

No lexeme reaches over the end of its line, and what a line is cut into depends on nothing behind
it: a line feed ends a word, a number, a comment and an unterminated text in the same way as the end
of the whole text does. So a text can be scanned line by line, and a line that stands for other
lines can be replaced by them.

* `Lexeme.first_append_newline`: one lexeme does not see what is behind the line feed.
* `lexemes_append_newline`: the lexemes before a line feed and behind it.
* `placeFrom_append`, `placeFrom_add`: where lexemes are placed.
* `scan_append_newline`: the tokens and faults before a line feed and behind it. -/

namespace EntityForge

/-! ### One lexeme -/

section Parts
variable (cs b : List Char)

theorem takeWhile_append_newline {p : Char → Bool} (hp : p '\n' = false) :
    (cs ++ '\n' :: b).takeWhile p = cs.takeWhile p := by
  rw [List.takeWhile_append]
  split_ifs with hall
  · rw [List.takeWhile_cons_of_neg (by simp [hp]), List.append_nil]
    exact ((List.takeWhile_prefix p).eq_of_length hall).symm
  · rfl

theorem head?_append_newline {c : Char} (hc : c ≠ '\n') :
    (cs ++ '\n' :: b).head? = some c ↔ cs.head? = some c := by
  rcases cs with _ | ⟨d, cs⟩
  · simp [hc.symm]
  · rfl

theorem drop_append_of_isPrefix {part cs : List Char} (h : part <+: cs) (rest : List Char) :
    (cs ++ rest).drop part.length = cs.drop part.length ++ rest :=
  List.drop_append_of_le_length h.length_le

theorem digitsPart_append_newline : digitsPart (cs ++ '\n' :: b) = digitsPart cs :=
  takeWhile_append_newline cs b (by decide)

theorem fractionPart_append_newline : fractionPart (cs ++ '\n' :: b) = fractionPart cs := by
  rcases cs with _ | ⟨c, cs⟩
  · rfl
  · by_cases hc : c = '.'
    · subst hc
      rw [List.cons_append, fractionPart, fractionPart, digitsPart_append_newline]
    · rw [List.cons_append, fractionPart, fractionPart]
      · exact fun ds h => hc (List.head_eq_of_cons_eq h)
      · exact fun ds h => hc (List.head_eq_of_cons_eq h)

theorem signPart_append_newline : signPart (cs ++ '\n' :: b) = signPart cs := by
  rcases cs with _ | ⟨c, cs⟩
  · rfl
  · rw [List.cons_append]
    unfold signPart
    split
    · next h => cases h; rfl
    · next h => cases h; rfl
    · next hplus hminus =>
      split
      · next h => cases h; exact (hplus _ rfl).elim
      · next h => cases h; exact (hminus _ rfl).elim
      · rfl

theorem exponentPart_append_newline : exponentPart (cs ++ '\n' :: b) = exponentPart cs := by
  rcases cs with _ | ⟨e, cs⟩
  · rw [List.nil_append]
    unfold exponentPart
    exact if_neg fun h => absurd h.1 (by decide)
  · rw [List.cons_append]
    unfold exponentPart
    dsimp only
    rw [signPart_append_newline, drop_append_of_isPrefix (signPart_isPrefix cs),
      digitsPart_append_newline]

theorem unsignedPart_append_newline : unsignedPart (cs ++ '\n' :: b) = unsignedPart cs := by
  have hfraction := isPrefix_append_of_drop (digitsPart_isPrefix cs) (fractionPart_isPrefix _)
  unfold unsignedPart
  dsimp only
  rw [digitsPart_append_newline, drop_append_of_isPrefix (digitsPart_isPrefix cs),
    fractionPart_append_newline, drop_append_of_isPrefix hfraction, exponentPart_append_newline]

theorem numberPart_append_newline : numberPart (cs ++ '\n' :: b) = numberPart cs := by
  rcases cs with _ | ⟨c, cs⟩
  · exact unsignedPart_append_newline [] b
  · by_cases hc : c = '-'
    · subst hc
      rw [List.cons_append, numberPart, numberPart, unsignedPart_append_newline]
    · rw [numberPart, numberPart, unsignedPart_append_newline]
      · exact fun ds h => hc (List.head_eq_of_cons_eq h)
      · exact fun ds h => hc (List.head_eq_of_cons_eq h)

theorem wordPart_append_newline : wordPart (cs ++ '\n' :: b) = wordPart cs := by
  rcases cs with _ | ⟨c, cs⟩
  · rfl
  · rw [List.cons_append, wordPart, wordPart, takeWhile_append_newline cs b (by decide)]

theorem Unclosed.append_newline {rest : List Char} (h : Unclosed rest) :
    Unclosed (rest ++ '\n' :: b) := by
  have hend : ∀ {cs : List Char}, AtLineEnd cs → AtLineEnd (cs ++ '\n' :: b) := fun {cs} h => by
    rcases cs with _ | ⟨c, cs⟩
    · simp [AtLineEnd]
    · exact h
  rcases h with h | ⟨more, rfl, h⟩
  · exact Or.inl (hend h)
  · exact Or.inr ⟨more ++ '\n' :: b, rfl, hend h⟩

theorem Lexeme.quotedText_append_newline {q : Char} (hq : q = '"' ∨ q = '\'') :
    Lexeme.quotedText q (cs ++ '\n' :: b) = Lexeme.quotedText q cs := by
  obtain ⟨hbody, rest, hcs, hrest⟩ := exists_stringBody q cs
  generalize stringBody q cs = body at hbody hcs
  subst hcs
  rw [List.append_assoc]
  rcases hrest with hclosed | hunclosed
  · obtain ⟨more, rfl⟩ := List.head?_eq_some_iff.1 hclosed
    rw [List.cons_append, quotedText_closed hq hbody, quotedText_closed hq hbody]
  · rw [quotedText_unclosed hq hbody hunclosed,
      quotedText_unclosed hq hbody (hunclosed.append_newline b)]

/-- **A lexeme does not see what is behind the line feed.** -/
theorem Lexeme.first_append_newline (c : Char) :
    Lexeme.first c (cs ++ '\n' :: b) = Lexeme.first c cs := by
  have hslash := head?_append_newline cs b (show '/' ≠ '\n' by decide)
  unfold Lexeme.first
  simp only [hslash]
  rw [takeWhile_append_newline cs b (by decide), ← List.cons_append, wordPart_append_newline,
    numberPart_append_newline]
  by_cases hq : c = '"' ∨ c = '\''
  · rw [Lexeme.quotedText_append_newline cs b hq]
  · rw [if_neg hq, if_neg hq]

end Parts

/-- **The lexemes of a text, before a line feed and behind it.** -/
theorem lexemes_append_newline (a b : List Char) :
    lexemes (a ++ '\n' :: b) = lexemes a ++ ⟨['\n'], .gap⟩ :: lexemes b := by
  fun_induction lexemes a with
  | case1 =>
    rw [List.nil_append, List.nil_append, lexemes]
    rfl
  | case2 c cs first ih =>
    rw [List.cons_append, lexemes, Lexeme.first_append_newline, ← List.cons_append,
      drop_append_of_isPrefix (Lexeme.first_isPrefix c cs), ih]
    rfl

/-! ### Places -/

/-- A span, moved on by some bytes. -/
def Span.shift (n : ℕ) (s : Span) : Span :=
  ⟨s.start + n, s.stop + n⟩

/-- A value, moved on by some bytes. -/
def Located.shift {α : Type} (n : ℕ) (l : Located α) : Located α :=
  ⟨l.val, l.span.shift n⟩

theorem placeFrom_append (offset : ℕ) (ls ms : List Lexeme) :
    placeFrom offset (ls ++ ms) = placeFrom offset ls
      ++ placeFrom (offset + byteLength (ls.map Lexeme.text).flatten) ms := by
  induction ls generalizing offset with
  | nil => rfl
  | cons l ls ih =>
    rw [List.cons_append, placeFrom, placeFrom, ih, List.map_cons, List.flatten_cons,
      byteLength_append, Nat.add_assoc]
    rfl

theorem placeFrom_add (offset n : ℕ) (ls : List Lexeme) :
    placeFrom (offset + n) ls = (placeFrom offset ls).map (Located.shift n) := by
  induction ls generalizing offset with
  | nil => rfl
  | cons l ls ih =>
    have hstop : offset + n + byteLength l.text = offset + byteLength l.text + n := by omega
    rw [placeFrom, placeFrom, hstop, ih]
    rfl

theorem token?_shift (n : ℕ) (m : Located Meaning) :
    (m.shift n).token? = m.token?.map (Located.shift n) := by
  rcases m with ⟨_ | t | f, span⟩ <;> rfl

theorem fault?_shift (n : ℕ) (m : Located Meaning) :
    (m.shift n).fault? = m.fault?.map (Located.shift n) := by
  rcases m with ⟨_ | t | f, span⟩ <;> rfl

theorem byteLength_toList (s : String) : byteLength s.toList = s.utf8ByteSize := by
  rw [← String.ofList_toList (s := s), String.toList_ofList]
  induction s.toList with
  | nil => rfl
  | cons c cs ih =>
    rw [String.ofList_cons, String.utf8ByteSize_append, String.utf8ByteSize_singleton,
      byteLength_cons, ih]

/-- **Scanning works line by line.** What stands before a line feed is scanned as if it stood alone,
whatever it leaves open, and what stands behind it as well, only moved on. -/
theorem scan_append_newline (a b : String) :
    scan (a ++ "\n" ++ b)
      = ⟨(scan a).tokens ++ (scan b).tokens.map (Located.shift (a.utf8ByteSize + 1)),
        (scan a).faults ++ (scan b).faults.map (Located.shift (a.utf8ByteSize + 1))⟩ := by
  have htext : (a ++ "\n" ++ b).toList = a.toList ++ '\n' :: b.toList := by
    rw [String.toList_append, String.toList_append, List.append_assoc]
    rfl
  have hoffset : 0 + byteLength a.toList + byteLength ['\n'] = 0 + (a.utf8ByteSize + 1) := by
    rw [byteLength_toList, Nat.zero_add, Nat.zero_add]
    rfl
  have hplaced : placeFrom 0 (lexemes (a ++ "\n" ++ b).toList)
      = placeFrom 0 (lexemes a.toList) ++ ⟨.gap, ⟨byteLength a.toList, a.utf8ByteSize + 1⟩⟩ ::
        (placeFrom 0 (lexemes b.toList)).map (Located.shift (a.utf8ByteSize + 1)) := by
    rw [htext, lexemes_append_newline, placeFrom_append, flatten_lexemes, placeFrom]
    dsimp only
    rw [hoffset, placeFrom_add, Nat.zero_add, Nat.zero_add]
  unfold scan
  dsimp only
  rw [hplaced, List.filterMap_append, List.filterMap_append, List.filterMap_cons_none rfl,
    List.filterMap_cons_none rfl, List.filterMap_map, List.filterMap_map, List.map_filterMap,
    List.map_filterMap]
  congr 3
  · funext m
    exact token?_shift _ m
  · funext m
    exact fault?_shift _ m

end EntityForge
