import EntityForge.Proofs.Token.Patterns

/-! # Maximal munch

What scanning means, said of a text and a list of placed tokens and faults alone. Each of them takes
up a piece of the text, the pieces follow each other, and what lies between them is skipped: blanks
and comments. A token is the longest piece that any pattern matches at its place, and a fault stands
where no pattern matches. There is one such list for every text, and the scanner finds it.

* `Skipped`: blanks and comments, in front of the rest of a text.
* `Meaning.Fits`: a token or a fault at its place.
* `Tiling`: a text and the tokens and faults that it is made of.
* `Tiling.cons`, `Tiling.exists_cons`: a tiling is a gap, one piece, and a tiling of the rest.
* `Lexeme.first_fits`, `Lexeme.first_of_fits`: one step of the scanner.
* `tiling_itemsFrom`, `Tiling.eq_itemsFrom`, `scan_eq_iff_tiling`: the whole of it. -/

namespace EntityForge

open scoped Computability

/-! ### What stands at a place -/

/-- **Blanks and comments in front of a rest.** A comment goes on to the end of its line. -/
inductive Skipped : List Char → List Char → Prop
  | nil (rest : List Char) : Skipped [] rest
  | blanks {run gap rest : List Char} (hrun : run ∈ blankPattern) (h : Skipped gap rest) :
      Skipped (run ++ gap) rest
  | comment {line gap rest : List Char} (hline : line ∈ commentPattern)
      (hend : AtLineEnd (gap ++ rest)) (h : Skipped gap rest) : Skipped (line ++ gap) rest

/-- **A token at its place:** its pattern matches the piece, it keeps what it has to, and no pattern
matches more of the text. -/
structure Token.Munches (t : Token) (piece rest : List Char) : Prop where
  spelled : piece ∈ t.pattern
  carried : t.Carries piece
  longest : ∀ other ∈ lexical, other <+: piece ++ rest → other.length ≤ piece.length

/-- **What a fault covers:** one character; or, from a quote on, what could stand between quotes, up
to where the line leaves it unclosed. -/
def ScanFault.Covers : ScanFault → List Char → List Char → Prop
  | unexpected c, piece, _ => ¬ (c = '"' ∨ c = '\'') ∧ piece = [c]
  | unterminated, piece, rest => ∃ q body, (q = '"' ∨ q = '\'') ∧ body ∈ (insidePattern q)∗ ∧
      piece = q :: body ∧ Unclosed rest

/-- **A token or a fault at its place.** A fault stands where no pattern matches. -/
def Meaning.Fits : Meaning → List Char → List Char → Prop
  | gap, _, _ => False
  | token t, piece, rest => t.Munches piece rest
  | fault f, piece, rest =>
    (∀ other ∈ lexical, other <+: piece ++ rest → other = []) ∧ f.Covers piece rest

/-! ### Tilings -/

/-- **A piece of a text and its span,** the text starting at the offset `base`. -/
structure Cut (base : ℕ) (cs : List Char) (span : Span) (before piece after : List Char) :
    Prop where
  text : cs = before ++ (piece ++ after)
  start : span.start = base + byteLength before
  stop : span.stop = base + byteLength before + byteLength piece

/-- **A part of a text between items:** it starts where the text starts or an item stops, it stops
where the text stops or an item starts, and no item reaches into it. -/
structure IsGap (base : ℕ) (items : List (Located Meaning)) (before gap after : List Char) :
    Prop where
  left : before = [] ∨ ∃ m ∈ items, m.span.stop = base + byteLength before
  right : after = [] ∨ ∃ m ∈ items, m.span.start = base + byteLength (before ++ gap)
  free : ∀ m ∈ items, m.span.stop ≤ base + byteLength before ∨
    base + byteLength (before ++ gap) ≤ m.span.start

/-- **A text and the tokens and faults it is made of,** the text starting at the offset `base`. -/
structure Tiling (base : ℕ) (cs : List Char) (items : List (Located Meaning)) : Prop where
  nonempty : ∀ m ∈ items, m.span.start < m.span.stop
  ordered : items.Pairwise fun m n => m.span.stop ≤ n.span.start
  fits : ∀ m ∈ items, ∃ before piece after, Cut base cs m.span before piece after ∧
    m.val.Fits piece after
  gaps : ∀ before gap after, cs = before ++ (gap ++ after) → IsGap base items before gap after →
    Skipped gap after

theorem byteLength_eq_zero_iff {cs : List Char} : byteLength cs = 0 ↔ cs = [] := by
  rcases cs with _ | ⟨c, cs⟩
  · simp
  · have hpos := c.utf8Size_pos
    simp only [byteLength_cons, List.cons_ne_nil, iff_false]
    omega

theorem exists_append_of_byteLength_le {as bs cs ds : List Char} (h : as ++ bs = cs ++ ds)
    (hle : byteLength as ≤ byteLength cs) : ∃ mid, cs = as ++ mid ∧ bs = mid ++ ds := by
  rcases List.append_eq_append_iff.1 h with ⟨mid, hcs, hbs⟩ | ⟨mid, has, hds⟩
  · exact ⟨mid, hcs, hbs⟩
  · have hmid : mid = [] := by
      rw [has, byteLength_append] at hle
      exact byteLength_eq_zero_iff.1 (by omega)
    subst hmid
    rw [List.append_nil] at has
    rw [List.nil_append] at hds
    exact ⟨[], by rw [has, List.append_nil], by rw [hds, List.nil_append]⟩

theorem tiling_nil_iff {base : ℕ} {cs : List Char} : Tiling base cs [] ↔ Skipped cs [] := by
  constructor
  · intro h
    exact h.gaps [] cs [] (by simp) ⟨Or.inl rfl, Or.inl rfl, nofun⟩
  · intro h
    refine ⟨nofun, List.Pairwise.nil, nofun, fun before gap after hcs hgap => ?_⟩
    obtain rfl : before = [] := hgap.left.resolve_right fun ⟨_, hm, _⟩ => nomatch hm
    obtain rfl : after = [] := hgap.right.resolve_right fun ⟨_, hm, _⟩ => nomatch hm
    rw [List.nil_append, List.append_nil] at hcs
    exact hcs ▸ h

section Cons
variable {base : ℕ} {m : Located Meaning} {ms : List (Located Meaning)}
  {cs gap piece rest : List Char}

theorem Tiling.le_start (h : Tiling base cs ms) {n : Located Meaning} (hn : n ∈ ms) :
    base ≤ n.span.start := by
  obtain ⟨before, _, _, hcut, -⟩ := h.fits n hn
  have := hcut.start
  omega

theorem Tiling.tail (h : Tiling base cs (m :: ms)) (hcut : Cut base cs m.span gap piece rest) :
    Tiling (base + byteLength gap + byteLength piece) rest ms where
  nonempty n hn := h.nonempty n (List.mem_cons_of_mem m hn)
  ordered := (List.pairwise_cons.1 h.ordered).2
  fits n hn := by
    obtain ⟨before, other, after, hn', hfits⟩ := h.fits n (List.mem_cons_of_mem m hn)
    have hstop := hcut.stop
    have hstart := hn'.start
    have hle := (List.pairwise_cons.1 h.ordered).1 n hn
    have htext : (gap ++ piece) ++ rest = before ++ (other ++ after) := by
      rw [List.append_assoc, ← hcut.text, hn'.text]
    obtain ⟨mid, rfl, hrest⟩ := exists_append_of_byteLength_le htext
      (by rw [byteLength_append]; omega)
    have hend := hn'.stop
    simp only [byteLength_append] at hstart hend
    exact ⟨mid, other, after, ⟨hrest, by omega, by omega⟩, hfits⟩
  gaps before between after hrest hgap := by
    have hstop := hcut.stop
    refine h.gaps (gap ++ piece ++ before) between after ?_ ⟨Or.inr ?_, ?_, ?_⟩
    · rw [hcut.text, hrest]
      simp only [List.append_assoc]
    · rcases hgap.left with rfl | ⟨n, hn, hstop'⟩
      · exact ⟨m, List.mem_cons_self, by simp only [List.append_nil, byteLength_append]; omega⟩
      · exact ⟨n, List.mem_cons_of_mem m hn, by simp only [byteLength_append]; omega⟩
    · refine hgap.right.imp_right fun ⟨n, hn, hstart⟩ => ⟨n, List.mem_cons_of_mem m hn, ?_⟩
      simp only [byteLength_append] at hstart ⊢
      omega
    · refine List.forall_mem_cons.2 ⟨Or.inl ?_, fun n hn => ?_⟩
      · simp only [byteLength_append]
        omega
      · have hfree := hgap.free n hn
        simp only [byteLength_append] at hfree ⊢
        omega

/-- **The first piece of a tiling,** the gap before it and the tiling behind it. -/
theorem Tiling.exists_cons (h : Tiling base cs (m :: ms)) : ∃ gap piece rest,
    Cut base cs m.span gap piece rest ∧ piece ≠ [] ∧ Skipped gap (piece ++ rest) ∧
      m.val.Fits piece rest ∧ Tiling (base + byteLength gap + byteLength piece) rest ms := by
  obtain ⟨gap, piece, rest, hcut, hfits⟩ := h.fits m List.mem_cons_self
  have hstart := hcut.start
  have hstop := hcut.stop
  have hlt := h.nonempty m List.mem_cons_self
  refine ⟨gap, piece, rest, hcut, ?_, ?_, hfits, h.tail hcut⟩
  · rintro rfl
    simp only [byteLength_nil] at hstop
    omega
  · refine h.gaps [] gap (piece ++ rest) hcut.text ⟨Or.inl rfl, Or.inr ?_, ?_⟩
    · exact ⟨m, List.mem_cons_self, by rw [List.nil_append]; exact hstart⟩
    · refine List.forall_mem_cons.2 ⟨Or.inr (by rw [List.nil_append]; omega), fun n hn => Or.inr ?_⟩
      have := (List.pairwise_cons.1 h.ordered).1 n hn
      rw [List.nil_append]
      omega

theorem IsGap.exists_tail {before between after : List Char}
    (hbetween : IsGap base (m :: ms) before between after)
    (hcut : Cut base cs m.span gap piece rest) (hpiece : piece ≠ [])
    (hcs : cs = before ++ (between ++ after))
    (hle : byteLength gap + byteLength piece ≤ byteLength before) :
    ∃ mid, rest = mid ++ (between ++ after) ∧
      IsGap (base + byteLength gap + byteLength piece) ms mid between after := by
  have hstart := hcut.start
  have hstop := hcut.stop
  have hpos : byteLength piece ≠ 0 := fun h0 => hpiece (byteLength_eq_zero_iff.1 h0)
  have htext : (gap ++ piece) ++ rest = before ++ (between ++ after) := by
    rw [List.append_assoc, ← hcut.text, hcs]
  obtain ⟨mid, rfl, hrest⟩ := exists_append_of_byteLength_le htext
    (by rw [byteLength_append]; omega)
  refine ⟨mid, hrest, ?_, ?_, fun n hn => ?_⟩
  · rcases hbetween.left with hnil | ⟨n, hn, hstop'⟩
    · exact absurd (List.append_eq_nil_iff.1 (List.append_eq_nil_iff.1 hnil).1).2 hpiece
    · simp only [byteLength_append] at hstop'
      rcases List.mem_cons.1 hn with rfl | hn
      · exact Or.inl (byteLength_eq_zero_iff.1 (by omega))
      · exact Or.inr ⟨n, hn, by omega⟩
  · refine hbetween.right.imp_right fun ⟨n, hn, hstart'⟩ => ?_
    simp only [byteLength_append] at hstart' ⊢
    rcases List.mem_cons.1 hn with rfl | hn
    · omega
    · exact ⟨n, hn, by omega⟩
  · have hfree := hbetween.free n (List.mem_cons_of_mem m hn)
    simp only [byteLength_append] at hfree ⊢
    omega

theorem Tiling.isGap_head (h : Tiling (base + byteLength gap + byteLength piece) rest ms)
    (hcut : Cut base cs m.span gap piece rest) (hpiece : piece ≠ [])
    {before between after : List Char} (hcs : cs = before ++ (between ++ after))
    (hbetween : IsGap base (m :: ms) before between after)
    (hlt : byteLength before < byteLength gap + byteLength piece) :
    between = gap ∧ after = piece ++ rest := by
  have hstart := hcut.start
  have hstop := hcut.stop
  have hpos : byteLength piece ≠ 0 := fun h0 => hpiece (byteLength_eq_zero_iff.1 h0)
  obtain rfl : before = [] := by
    refine hbetween.left.resolve_right fun ⟨n, hn, hstop'⟩ => ?_
    rcases List.mem_cons.1 hn with rfl | hn
    · omega
    · have hbase := h.le_start hn
      have hne := h.nonempty n hn
      omega
  have htext : gap ++ (piece ++ rest) = between ++ after := hcut.text.symm.trans hcs
  have hge : byteLength gap ≤ byteLength between := by
    rcases hbetween.right with rfl | ⟨n, hn, hstart'⟩
    · have hbytes := congrArg byteLength htext
      simp only [byteLength_append, byteLength_nil] at hbytes
      omega
    · rw [List.nil_append] at hstart'
      rcases List.mem_cons.1 hn with rfl | hn
      · omega
      · have hbase := h.le_start hn
        omega
  obtain ⟨mid, rfl, hrest⟩ := exists_append_of_byteLength_le htext hge
  obtain rfl : mid = [] := by
    have hfree := hbetween.free m List.mem_cons_self
    simp only [List.nil_append, byteLength_append, byteLength_nil] at hfree
    exact byteLength_eq_zero_iff.1 (by omega)
  exact ⟨List.append_nil gap, hrest.symm⟩

/-- **One more piece,** with a gap before it. -/
theorem Tiling.cons (h : Tiling (base + byteLength gap + byteLength piece) rest ms)
    (hcut : Cut base cs m.span gap piece rest) (hpiece : piece ≠ [])
    (hgap : Skipped gap (piece ++ rest)) (hfits : m.val.Fits piece rest) :
    Tiling base cs (m :: ms) where
  nonempty := by
    have hstart := hcut.start
    have hstop := hcut.stop
    have hpos : byteLength piece ≠ 0 := fun h0 => hpiece (byteLength_eq_zero_iff.1 h0)
    exact List.forall_mem_cons.2 ⟨by omega, h.nonempty⟩
  ordered := by
    refine List.pairwise_cons.2 ⟨fun n hn => ?_, h.ordered⟩
    rw [hcut.stop]
    exact h.le_start hn
  fits := by
    refine List.forall_mem_cons.2 ⟨⟨gap, piece, rest, hcut, hfits⟩, fun n hn => ?_⟩
    obtain ⟨before, other, after, hn', hfits'⟩ := h.fits n hn
    have hstart := hn'.start
    have hstop := hn'.stop
    refine ⟨gap ++ (piece ++ before), other, after, ⟨?_, ?_, ?_⟩, hfits'⟩
    · rw [hcut.text, hn'.text]
      simp only [List.append_assoc]
    · simp only [byteLength_append]
      omega
    · simp only [byteLength_append]
      omega
  gaps before between after hcs hbetween := by
    rcases Nat.lt_or_ge (byteLength before) (byteLength gap + byteLength piece) with hlt | hle
    · obtain ⟨rfl, rfl⟩ := h.isGap_head hcut hpiece hcs hbetween hlt
      exact hgap
    · obtain ⟨mid, hrest, hbehind⟩ := hbetween.exists_tail hcut hpiece hcs hle
      exact h.gaps mid between after hrest hbehind

end Cons

theorem Tiling.skip {base : ℕ} {piece rest : List Char} {items : List (Located Meaning)}
    (hpiece : piece ∈ blankPattern ∨ piece ∈ commentPattern ∧ AtLineEnd rest)
    (h : Tiling (base + byteLength piece) rest items) : Tiling base (piece ++ rest) items := by
  have hskip : ∀ gap after, rest = gap ++ after → Skipped gap after →
      Skipped (piece ++ gap) after := fun gap after hrest hgap => by
    rcases hpiece with hblank | ⟨hcomment, hend⟩
    · exact .blanks hblank hgap
    · exact .comment hcomment (hrest ▸ hend) hgap
  rcases items with _ | ⟨m, ms⟩
  · rw [tiling_nil_iff] at h ⊢
    exact hskip rest [] (List.append_nil rest).symm h
  · obtain ⟨gap, text, after, hcut, htext, hgap, hfits, htail⟩ := h.exists_cons
    have hbase : base + byteLength piece + byteLength gap = base + byteLength (piece ++ gap) := by
      rw [byteLength_append, Nat.add_assoc]
    have hstart := hcut.start
    have hstop := hcut.stop
    rw [hbase] at hstart hstop htail
    have hcs : piece ++ rest = (piece ++ gap) ++ (text ++ after) := by
      rw [hcut.text, List.append_assoc]
    exact htail.cons ⟨hcs, hstart, hstop⟩ htext (hskip _ _ hcut.text hgap) hfits

/-! ### One step of the scanner -/

/-- What a lexeme is by itself, whether or not it could be longer. -/
def Meaning.Describes : Meaning → List Char → List Char → Prop
  | gap, piece, rest => piece ∈ blankPattern ∨ piece ∈ commentPattern ∧ AtLineEnd rest
  | token t, piece, _ => piece ∈ t.pattern ∧ t.Carries piece
  | fault f, piece, rest => f.Covers piece rest

theorem Token.mem_pattern_of_ofMark? {c : Char} {t : Token} (h : Token.ofMark? c = some t) :
    [c] ∈ t.pattern ∧ t.Carries [c] := by
  unfold Token.ofMark? at h
  split_ifs at h with h₁ h₂ h₃ h₄ h₅ h₆ <;> cases h <;> exact ⟨⟨c, ‹_›, rfl⟩, trivial⟩

theorem Lexeme.quotedText_describes {q : Char} (hq : q = '"' ∨ q = '\'') (cs : List Char) :
    ∃ rest, q :: cs = (Lexeme.quotedText q cs).text ++ rest ∧
      (Lexeme.quotedText q cs).meaning.Describes (Lexeme.quotedText q cs).text rest := by
  obtain ⟨hbody, rest, hcs, hrest⟩ := exists_stringBody q cs
  generalize stringBody q cs = body at hbody hcs
  subst hcs
  rcases hrest with hclosed | hunclosed
  · obtain ⟨more, rfl⟩ := List.head?_eq_some_iff.1 hclosed
    rw [Lexeme.quotedText_closed hq hbody]
    refine ⟨more, by simp, ?_, q, body, rfl, ?_⟩
    · have hpattern := mem_quotedPattern.2 ⟨body, hbody, rfl⟩
      rcases hq with rfl | rfl
      · exact Or.inl hpattern
      · exact Or.inr hpattern
    · rw [String.toList_ofList]
      exact unescapes_decodeEscapes hbody
  · rw [Lexeme.quotedText_unclosed hq hbody hunclosed]
    exact ⟨rest, rfl, q, body, hq, hbody, rfl, hunclosed⟩

theorem atLineEnd_dropWhile (cs : List Char) : AtLineEnd (cs.dropWhile (· ≠ '\n')) := by
  intro c hc
  have hstop := List.head?_dropWhile_not (fun c => decide (c ≠ '\n')) cs
  rw [Option.mem_def.1 hc] at hstop
  simpa using hstop

/-- **The first lexeme is what it is said to be.** -/
theorem Lexeme.first_describes (c : Char) (cs : List Char) :
    ∃ rest, c :: cs = (Lexeme.first c cs).text ++ rest ∧
      (Lexeme.first c cs).meaning.Describes (Lexeme.first c cs).text rest := by
  unfold Lexeme.first
  split_ifs with hgap hslash hquote
  · exact ⟨cs, rfl, Or.inl (mem_blankPattern.2 ⟨by simp, by simpa using hgap⟩)⟩
  · obtain ⟨rfl, hcs⟩ := hslash
    obtain ⟨line, rfl⟩ := List.head?_eq_some_iff.1 hcs
    refine ⟨line.dropWhile (· ≠ '\n'), ?_, Or.inr ⟨mem_commentPattern.2 ?_, ?_⟩⟩
    · simp [List.takeWhile_append_dropWhile]
    · refine ⟨line.takeWhile (· ≠ '\n'), fun hn => ?_, by simp⟩
      simpa using List.mem_takeWhile_imp hn
    · exact atLineEnd_dropWhile line
  · exact Lexeme.quotedText_describes hquote cs
  · split
    · next t hmark => exact ⟨cs, rfl, Token.mem_pattern_of_ofMark? hmark⟩
    · next w ws hmark hword =>
      obtain ⟨rest, hrest⟩ := wordPart_isPrefix (c :: cs)
      rw [hword] at hrest
      refine ⟨rest, hrest.symm, ?_, String.toList_ofList⟩
      rw [wordPart] at hword
      split_ifs at hword with hstart
      exact mem_wordPattern.2 ⟨c, _, hstart, fun d hd => List.mem_takeWhile_imp hd, hword.symm⟩
    · next d ds hmark hword hnumber =>
      obtain ⟨rest, hrest⟩ := numberPart_isPrefix (c :: cs)
      rw [hnumber] at hrest
      have hspelled : IsNumber (numberPart (c :: cs)) := isNumber_numberPart (by simp [hnumber])
      rw [hnumber] at hspelled
      exact ⟨rest, hrest.symm, mem_numberPattern.2 hspelled, String.toList_ofList⟩
    · exact ⟨cs, rfl, hquote, rfl⟩

theorem Lexeme.first_mem_lexical {c : Char} {cs : List Char}
    (h : ∀ f, (Lexeme.first c cs).meaning ≠ .fault f) : (Lexeme.first c cs).text ∈ lexical := by
  obtain ⟨rest, -, hdescribes⟩ := Lexeme.first_describes c cs
  rcases hmeaning : (Lexeme.first c cs).meaning with _ | t | f
  · rw [hmeaning] at hdescribes
    exact hdescribes.imp_right fun hcomment => Or.inl hcomment.1
  · rw [hmeaning] at hdescribes
    exact Or.inr (Or.inr ⟨t, hdescribes.1⟩)
  · exact absurd hmeaning (h f)

/-- **Where a pattern matches,** something is skipped, or a token is taken that is at least as
long. -/
theorem Lexeme.gap_or_isPrefix_of_lexical {c : Char} {cs other : List Char} (h : other ∈ lexical)
    (hother : other <+: c :: cs) : (Lexeme.first c cs).meaning = .gap ∨
      ∃ t, (Lexeme.first c cs).meaning = .token t ∧ other <+: (Lexeme.first c cs).text := by
  rcases h with hblank | hcomment | ⟨t, ht⟩
  · exact Or.inl (Lexeme.meaning_of_blank hblank hother)
  · exact Or.inl (Lexeme.meaning_of_comment hcomment hother)
  · obtain ⟨u, hu, hpart, -⟩ := Lexeme.exists_token_of_pattern ht hother
    exact Or.inr ⟨u, hu, hpart⟩

/-- **The first lexeme fits its place** if it is not skipped. -/
theorem Lexeme.first_fits {c : Char} {cs : List Char} (h : (Lexeme.first c cs).meaning ≠ .gap) :
    ∃ rest, c :: cs = (Lexeme.first c cs).text ++ rest ∧
      (Lexeme.first c cs).meaning.Fits (Lexeme.first c cs).text rest := by
  obtain ⟨rest, hcs, hdescribes⟩ := Lexeme.first_describes c cs
  refine ⟨rest, hcs, ?_⟩
  rcases hmeaning : (Lexeme.first c cs).meaning with _ | t | f
  · exact absurd hmeaning h
  · rw [hmeaning] at hdescribes
    refine ⟨hdescribes.1, hdescribes.2, fun other hother hpart => ?_⟩
    rw [← hcs] at hpart
    rcases Lexeme.gap_or_isPrefix_of_lexical hother hpart with hgap | ⟨u, -, hle⟩
    · exact absurd hgap h
    · exact hle.length_le
  · rw [hmeaning] at hdescribes
    refine ⟨fun other hother hpart => ?_, hdescribes⟩
    rw [← hcs] at hpart
    rcases Lexeme.gap_or_isPrefix_of_lexical hother hpart with hgap | ⟨u, hu, -⟩
    · exact absurd hgap h
    · rw [hmeaning] at hu
      cases hu

theorem Lexeme.first_of_munches {c : Char} {cs piece rest : List Char} {t : Token}
    (h : t.Munches piece rest) (hcs : c :: cs = piece ++ rest) :
    Lexeme.first c cs = ⟨piece, .token t⟩ := by
  have hpiece : piece <+: c :: cs := ⟨rest, hcs.symm⟩
  obtain ⟨u, hu, hpart, heq⟩ := Lexeme.exists_token_of_pattern h.spelled hpiece
  have hlexical : (Lexeme.first c cs).text ∈ lexical := Lexeme.first_mem_lexical fun f hf => by
    rw [hu] at hf
    cases hf
  have hle := h.longest _ hlexical (hcs ▸ Lexeme.first_isPrefix c cs)
  have htext : (Lexeme.first c cs).text = piece := (hpart.eq_of_length_le hle).symm
  rw [heq h.carried htext] at hu
  rw [← htext, ← hu]

theorem Lexeme.first_of_covers {c : Char} {cs piece rest : List Char} {f : ScanFault}
    (h : ∀ other ∈ lexical, other <+: c :: cs → other = []) (hf : f.Covers piece rest)
    (hcs : c :: cs = piece ++ rest) : Lexeme.first c cs = ⟨piece, .fault f⟩ := by
  rcases f with _ | d
  · obtain ⟨q, body, hq, hbody, rfl, hrest⟩ := hf
    cases hcs
    rw [Lexeme.first_quote hq]
    exact Lexeme.quotedText_unclosed hq hbody hrest
  · obtain ⟨hquote, rfl⟩ := hf
    obtain ⟨rfl, rfl⟩ := List.cons.inj hcs
    obtain ⟨g, hg⟩ : ∃ g, (Lexeme.first c cs).meaning = .fault g := by
      by_contra hnone
      have hlexical := Lexeme.first_mem_lexical fun g hg => hnone ⟨g, hg⟩
      exact Lexeme.first_text_ne_nil c cs (h _ hlexical (Lexeme.first_isPrefix c cs))
    obtain ⟨more, hmore, hdescribes⟩ := Lexeme.first_describes c cs
    rw [hg] at hdescribes
    rcases g with _ | e
    · obtain ⟨q, body, hq, -, htext, -⟩ := hdescribes
      rw [htext] at hmore
      cases hmore
      exact absurd hq hquote
    · obtain ⟨-, htext⟩ := hdescribes
      rw [htext] at hmore
      obtain ⟨rfl, -⟩ := List.cons.inj hmore
      rw [← htext, ← hg]

/-- **What fits a place is the first lexeme there.** -/
theorem Lexeme.first_of_fits {c : Char} {cs piece rest : List Char} {m : Meaning}
    (h : m.Fits piece rest) (hcs : c :: cs = piece ++ rest) : Lexeme.first c cs = ⟨piece, m⟩ := by
  cases m with
  | gap => exact h.elim
  | token t => exact Lexeme.first_of_munches h hcs
  | fault f => exact Lexeme.first_of_covers (hcs ▸ h.1) h.2 hcs

/-! ### The whole text -/

/-- The tokens and faults of a text that starts at an offset. -/
def itemsFrom (base : ℕ) (cs : List Char) : List (Located Meaning) :=
  (placeFrom base (lexemes cs)).filter (·.val ≠ .gap)

theorem itemsFrom_nil (base : ℕ) : itemsFrom base [] = [] := by
  simp [itemsFrom, lexemes, placeFrom]

section First
variable {c : Char} {cs piece rest : List Char} (base : ℕ) (hcs : c :: cs = piece ++ rest)
include hcs

theorem itemsFrom_gap (h : Lexeme.first c cs = ⟨piece, .gap⟩) :
    itemsFrom base (piece ++ rest) = itemsFrom (base + byteLength piece) rest := by
  unfold itemsFrom
  rw [lexemes_append hcs h, placeFrom]
  exact List.filter_cons_of_neg (by simp)

theorem itemsFrom_item {m : Meaning} (hm : m ≠ .gap) (h : Lexeme.first c cs = ⟨piece, m⟩) :
    itemsFrom base (piece ++ rest)
      = ⟨m, ⟨base, base + byteLength piece⟩⟩ :: itemsFrom (base + byteLength piece) rest := by
  unfold itemsFrom
  rw [lexemes_append hcs h, placeFrom]
  exact List.filter_cons_of_pos (by simpa using hm)

end First

/-- **The scanner tiles the text.** -/
theorem tiling_itemsFrom (base : ℕ) (cs : List Char) : Tiling base cs (itemsFrom base cs) := by
  fun_induction lexemes cs generalizing base with
  | case1 =>
    rw [itemsFrom_nil, tiling_nil_iff]
    exact .nil []
  | case2 c cs first ih =>
    obtain ⟨rest, hcs, hdescribes⟩ := Lexeme.first_describes c cs
    rw [hcs, List.drop_left] at ih
    by_cases hgap : (Lexeme.first c cs).meaning = .gap
    · have hitems := itemsFrom_gap base hcs (by rw [← hgap])
      rw [hgap] at hdescribes
      rw [hcs, hitems]
      exact (ih _).skip hdescribes
    · obtain ⟨rest', hcs', hfits⟩ := Lexeme.first_fits hgap
      obtain rfl : rest = rest' := List.append_cancel_left (hcs.symm.trans hcs')
      have hitems := itemsFrom_item base hcs hgap rfl
      rw [hcs, hitems]
      exact (ih _).cons ⟨rfl, rfl, rfl⟩ (Lexeme.first_text_ne_nil c cs) (.nil _) hfits

theorem Skipped.itemsFrom_eq {gap rest : List Char} (h : Skipped gap rest) (base : ℕ) :
    itemsFrom base (gap ++ rest) = itemsFrom (base + byteLength gap) rest := by
  induction h generalizing base with
  | nil => rfl
  | @blanks run gap rest hrun _ ih =>
    have hchars := (mem_blankPattern.1 hrun).2
    clear hrun
    rw [List.append_assoc]
    induction run generalizing base with
    | nil => exact ih base
    | cons c run ihrun =>
      obtain ⟨hc, hrun⟩ := List.forall_mem_cons.1 hchars
      have hstep : itemsFrom base ([c] ++ (run ++ (gap ++ rest))) = _ :=
        itemsFrom_gap base rfl (Lexeme.first_gapChar hc (run ++ (gap ++ rest)))
      rw [List.cons_append, ← List.singleton_append, hstep, ihrun _ hrun]
      simp only [List.cons_append, byteLength_cons, byteLength_nil]
      congr 1
      omega
  | @comment line gap rest hline hend _ ih =>
    obtain ⟨line, hn, rfl⟩ := mem_commentPattern.1 hline
    have hstop : StopsAt (fun c => decide (c ≠ '\n')) (gap ++ rest) := fun c hc =>
      decide_eq_false fun hne => hne (hend c hc)
    have htake : (line ++ (gap ++ rest)).takeWhile (· ≠ '\n') = line :=
      takeWhile_append_of_stopsAt (fun c hc => decide_eq_true fun heq => hn (heq ▸ hc)) hstop
    have hfirst := Lexeme.first_comment (line ++ (gap ++ rest))
    rw [htake] at hfirst
    rw [List.append_assoc, itemsFrom_gap base rfl hfirst, ih, byteLength_append, Nat.add_assoc]

/-- **There is one tiling,** the one that the scanner finds. -/
theorem Tiling.eq_itemsFrom {items : List (Located Meaning)} : ∀ {base : ℕ} {cs : List Char},
    Tiling base cs items → items = itemsFrom base cs := by
  induction items with
  | nil =>
    intro base cs h
    have hskip := (tiling_nil_iff.1 h).itemsFrom_eq base
    rw [List.append_nil] at hskip
    rw [hskip, itemsFrom_nil]
  | cons m ms ih =>
    intro base cs h
    obtain ⟨gap, piece, rest, hcut, hpiece, hgap, hfits, htail⟩ := h.exists_cons
    obtain ⟨c, piece, rfl⟩ := List.exists_cons_of_ne_nil hpiece
    have hfirst := Lexeme.first_of_fits hfits (List.cons_append ..).symm
    have hm : m.val ≠ .gap := fun hm => by
      rw [hm] at hfits
      exact hfits
    rw [hcut.text, hgap.itemsFrom_eq, itemsFrom_item _ rfl hm hfirst, ← ih htail,
      ← hcut.stop, ← hcut.start]

theorem scan_eq (source : String) : scan source
    = ⟨(itemsFrom 0 source.toList).filterMap Located.token?,
      (itemsFrom 0 source.toList).filterMap Located.fault?⟩ := by
  have hgap : ∀ {α : Type} (f : Located Meaning → Option α), (∀ m, m.val = .gap → f m = none) →
      ∀ items : List (Located Meaning),
        (items.filter (·.val ≠ .gap)).filterMap f = items.filterMap f := fun f hf items => by
    rw [List.filterMap_filter]
    refine List.filterMap_congr fun m _ => ?_
    by_cases hm : m.val = .gap
    · simp [hm, hf m hm]
    · simp [hm]
  unfold scan itemsFrom
  dsimp only
  rw [hgap Located.token? fun m hm => by simp [Located.token?, hm],
    hgap Located.fault? fun m hm => by simp [Located.fault?, hm]]

/-- **Scanning is maximal munch.** The tokens and faults of a text are those of the one list that
tiles it: each takes up a piece of the text, at least one character long, and the pieces follow each
other without overlap; between them, before the first and behind the last there are only blanks and
comments. A token is spelled by its pattern, keeps what it has to keep of its piece, and no pattern
matches more of the text at its place. A fault stands where no pattern matches; it covers one
character, or, at a quote, the text up to where the line leaves it unclosed. -/
theorem scan_eq_iff_tiling (source : String) (s : Scanned) :
    s = scan source ↔ ∃ items, Tiling 0 source.toList items ∧
      s.tokens = items.filterMap Located.token? ∧ s.faults = items.filterMap Located.fault? := by
  constructor
  · rintro rfl
    rw [scan_eq]
    exact ⟨_, tiling_itemsFrom 0 source.toList, rfl, rfl⟩
  · rintro ⟨items, htiling, htokens, hfaults⟩
    rw [htiling.eq_itemsFrom] at htokens hfaults
    rw [scan_eq, ← htokens, ← hfaults]

end EntityForge
