import EntityForge.Proofs.Excerpt.VisualLines
import EntityForge.Proofs.Build.ErrorPlaces

/-! # The position above an excerpt

The report of an error names a position twice: in its headline, where line feeds and characters are
counted, and in the row above the excerpt, where the span is looked up among the lines that are
shown. The span counts bytes, the look-up counts characters, and the two do not end lines behind the
same characters. So the second position is never before the first, and it is the same exactly if the
text in front of the error has characters of one byte only and no line end but the line feed, and
the span is not too long to be looked up.

* `Excerpt.Shows`: the position in the row above the excerpt.
* `Excerpt.shows_iff`: it is the one that is looked up.
* `Excerpt.Drawable`, `Excerpt.location?_eq_some_iff`: when there is one, and which.
* `Excerpt.location?_eq_position_iff`: when it is the position of the error.
* `Excerpt.shown_position_iff`: the same of every error in a source text. -/

namespace EntityForge.Excerpt

/-! ### The rows of a report -/

/-- The headline of a report. -/
def headline (e : SourceError) : String :=
  marked "Error:" ++ " " ++ ("Line " ++ toString e.position.line ++ ", Column "
    ++ toString e.position.column ++ ": " ++ e.message)

/-- The row above an excerpt. -/
def header (digits : ℕ) (name : String) (p : Position) : String :=
  spaces (digits + 2) ++ frame "╭" ++ frame "─" ++ frame "[" ++ " "
    ++ (name ++ ":" ++ toString p.line ++ ":" ++ toString p.column) ++ " " ++ frame "]"

/-- **The report of an error shows a position** in the row below its headline. -/
def Shows (source name : String) (e : SourceError) (p : Position) : Prop :=
  ∃ digits rest, render source name e = headline e ++ "\n" ++ (header digits name p ++ "\n" ++ rest)

theorem exists_rows_eq (name : String) (first last : Line) (span : Span) (message : String) :
    ∃ digits more, rows name first last span message =
      header digits name (first.locate span) :: more :=
  ⟨_, _, rfl⟩

/-- **The report of an error:** its headline, and below it the position that is looked up, if there
is one. -/
theorem render_eq (source name : String) (e : SourceError) :
    ∃ below, render source name e = headline e ++ "\n" ++ below ∧
      match location? source e.span with
      | none => below = ""
      | some p => ∃ digits rest, below = header digits name p ++ "\n" ++ rest := by
  unfold render location?
  dsimp only
  rcases linesOf? source.toList (clampSpan (byteLength source.toList) e.span) with _ | ⟨first, last⟩
  · refine ⟨"", ?_, rfl⟩
    simp [headline, SourceError.display]
  · obtain ⟨digits, more, hrows⟩ :=
      exists_rows_eq name first last (clampSpan (byteLength source.toList) e.span) e.message
    refine ⟨_, ?_, digits, String.join (more.map (· ++ "\n")), rfl⟩
    simp only [hrows]
    simp [headline, SourceError.display, String.append_assoc]

/-! ### Reading a position off a report -/

theorem toList_spaces (n : ℕ) : (spaces n).toList = List.replicate n ' ' := by
  induction n with
  | zero => rfl
  | succ n ih => simpa [spaces, times, List.replicate_succ] using ih

theorem notMem_toString {c : Char} (hc : c.isDigit = false) (n : ℕ) : c ∉ (toString n).toList := by
  intro hmem
  rw [(isDigits_toString n).2 c hmem] at hc
  cases hc

theorem eq_of_append_cons_eq {c : Char} {as bs as' bs' : List Char} (h : c ∉ as) (h' : c ∉ as')
    (heq : as ++ c :: bs = as' ++ c :: bs') : as = as' ∧ bs = bs' := by
  have htake : ∀ {as : List Char} (bs : List Char), c ∉ as →
      (as ++ c :: bs).takeWhile (· ≠ c) = as := by
    intro as bs has
    rw [List.takeWhile_append_of_pos]
    · simp
    · intro d hd
      simpa using ne_of_mem_of_not_mem hd has
  have has : as = as' := by rw [← htake bs h, heq, htake bs' h']
  rw [has, List.append_cancel_left_eq, List.cons_inj_right] at heq
  exact ⟨has, heq⟩

/-- The row above an excerpt in its parts: spaces up to an escape, the name, and two numbers up to a
colon and a space. -/
theorem exists_toList_header : ∃ corner close : List Char, ∀ digits name p,
    (header digits name p).toList = List.replicate (digits + 2) ' ' ++ '\x1b' :: (corner ++
      (name.toList ++ ':' :: ((toString p.line).toList ++ ':' ::
        ((toString p.column).toList ++ ' ' :: close)))) := by
  refine ⟨(frame "╭" ++ frame "─" ++ frame "[" ++ " ").toList.tail, (frame "]").toList, ?_⟩
  intro digits name p
  simp only [header, String.toList_append, toList_spaces, List.append_assoc]
  rfl

/-- **The position can be read off the row.** -/
theorem header_inj {digits digits' : ℕ} {name rest rest' : String} {p q : Position}
    (h : header digits name p ++ rest = header digits' name q ++ rest') : p = q := by
  obtain ⟨corner, close, hlist⟩ := exists_toList_header
  have hchars := congrArg String.toList h
  simp only [String.toList_append, hlist, List.append_assoc, List.cons_append] at hchars
  have hspaces : ∀ n : ℕ, '\x1b' ∉ List.replicate n ' ' := by simp
  obtain ⟨-, hname⟩ := eq_of_append_cons_eq (hspaces _) (hspaces _) hchars
  rw [List.append_cancel_left_eq, List.append_cancel_left_eq, List.cons_inj_right] at hname
  obtain ⟨hline, hcolumn⟩ :=
    eq_of_append_cons_eq (notMem_toString (by decide) _) (notMem_toString (by decide) _) hname
  obtain ⟨hcolumn, -⟩ :=
    eq_of_append_cons_eq (notMem_toString (by decide) _) (notMem_toString (by decide) _) hcolumn
  refine Position.address_injective ?_
  rw [Position.address, Position.address, eq_of_toString_eq hline, eq_of_toString_eq hcolumn]

theorem shows_iff {source name : String} {e : SourceError} {p : Position} :
    Shows source name e p ↔ location? source e.span = some p := by
  obtain ⟨below, hrender, hbelow⟩ := render_eq source name e
  obtain ⟨corner, close, hlist⟩ := exists_toList_header
  constructor
  · rintro ⟨digits, rest, hshown⟩
    rw [hrender, String.append_right_inj] at hshown
    rw [hshown] at hbelow
    rcases hlocation : location? source e.span with _ | q
    · rw [hlocation] at hbelow
      have hempty := congrArg String.toList hbelow
      simp [hlist] at hempty
    · rw [hlocation] at hbelow
      obtain ⟨digits', rest', heq⟩ := hbelow
      rw [String.append_assoc, String.append_assoc] at heq
      rw [header_inj heq]
  · intro hlocation
    rw [hlocation] at hbelow
    obtain ⟨digits, rest, rfl⟩ := hbelow
    exact ⟨digits, rest, hrender⟩

/-! ### Looking a span up -/

/-- **A span that can be looked up:** it does not reach further than one beyond the end, in
characters. -/
def Drawable (cs : List Char) (span : Span) : Prop :=
  span.start ≤ cs.length ∧ (span.start = span.stop ∨ span.stop ≤ cs.length + 1)

theorem exists_linesOf?_eq_some {cs : List Char} {span : Span} (h : Drawable cs span) :
    ∃ first last, linesOf? cs span = some (first, last) ∧
      first.locate span = walk ⟨1, 1⟩ cs span.start := by
  obtain ⟨hstart, hstop⟩ := h
  obtain ⟨first, hfirst, hlocate⟩ := exists_lineAt?_locate hstart span.stop
  by_cases hempty : span.start = span.stop
  · exact ⟨first, first, by simp [linesOf?, hfirst, ← hempty], hlocate⟩
  · obtain ⟨last, hlast, -⟩ :=
      exists_lineAt?_locate (Nat.sub_le_of_le_add (hstop.resolve_left hempty)) span.stop
    exact ⟨first, last, by simp [linesOf?, hfirst, hempty, hlast], hlocate⟩

theorem linesOf?_eq_none {cs : List Char} {span : Span} (h : ¬ Drawable cs span) :
    linesOf? cs span = none := by
  by_cases hstart : span.start ≤ cs.length
  · have hne : ¬ span.start = span.stop := fun heq => h ⟨hstart, .inl heq⟩
    have hlast : lineAt? cs (span.stop - 1) = none :=
      lineAt?_eq_none_iff.2 (Nat.lt_of_not_le fun hle => h ⟨hstart, .inr (by omega)⟩)
    simp [linesOf?, hne, hlast]
  · simp [linesOf?, lineAt?_eq_none_iff.2 (Nat.lt_of_not_le hstart)]

section Cut
variable {source : String} {span : Span} {before piece after : List Char}

theorem clampSpan_of_cut (h : Cut 0 source.toList span before piece after) :
    clampSpan (byteLength source.toList) span = span := by
  have hsize : byteLength source.toList =
      byteLength before + (byteLength piece + byteLength after) := by
    rw [h.text, byteLength_append, byteLength_append]
  rw [h.span_eq, clampSpan, hsize, Span.mk.injEq]
  dsimp only
  omega

/-- **The position that is looked up** for a part of a source. -/
theorem location?_eq_some_iff (h : Cut 0 source.toList span before piece after) {p : Position} :
    location? source span = some p ↔
      Drawable source.toList span ∧ p = walk ⟨1, 1⟩ source.toList span.start := by
  rw [location?, clampSpan_of_cut h]
  by_cases hdrawable : Drawable source.toList span
  · obtain ⟨first, last, hlines, hlocate⟩ := exists_linesOf?_eq_some hdrawable
    simp [hlines, hlocate, hdrawable, eq_comm]
  · simp [linesOf?_eq_none hdrawable, hdrawable]

/-! ### Bytes and characters -/

theorem length_le_byteLength (cs : List Char) : cs.length ≤ byteLength cs := by
  induction cs with
  | nil => exact le_rfl
  | cons c cs ih =>
    have := c.utf8Size_pos
    rw [List.length_cons, byteLength_cons]
    omega

theorem byteLength_eq_length_iff {cs : List Char} :
    byteLength cs = cs.length ↔ ∀ c ∈ cs, c.utf8Size = 1 := by
  induction cs with
  | nil => simp
  | cons c cs ih =>
    have := c.utf8Size_pos
    have := length_le_byteLength cs
    rw [List.forall_mem_cons, ← ih, byteLength_cons, List.length_cons]
    omega

section Compare
variable (h : Cut 0 source.toList span before piece after)
  (hlast : piece ++ after = [] → ∀ c, before.getLast? = some c → isLineEnd c = false)
include h hlast

theorem lags_before :
    Lags (Position.after before) (walk ⟨1, 1⟩ source.toList before.length) ∧
      (Position.after before = walk ⟨1, 1⟩ source.toList before.length ↔
        PlainEnds before (piece ++ after)) := by
  have hstart : Position.after before = before.foldl Position.advance ⟨1, 1⟩ :=
    Position.after_append [] before
  rw [hstart, h.text]
  obtain ⟨hlags, hiff⟩ := lags_walk hlast (.inl rfl)
  exact ⟨hlags, hiff.trans (by simp only [true_and])⟩

/-- **The position that is looked up is not before the part.** -/
theorem address_le_of_location?_eq {p : Position} (hp : location? source span = some p) :
    (Position.after before).address ≤ p.address := by
  obtain ⟨⟨hstart, -⟩, rfl⟩ := (location?_eq_some_iff h).1 hp
  have hle : before.length ≤ span.start := by
    rw [h.span_eq]
    exact length_le_byteLength before
  exact (lags_before h hlast).1.address_le.trans (address_walk_le hle hstart)

/-- **When the position that is looked up is that of the part.** -/
theorem location?_eq_position_iff :
    location? source span = some (Position.after before) ↔
      (∀ c ∈ before, c.utf8Size = 1) ∧ PlainEnds before (piece ++ after) ∧
        byteLength piece ≤ piece.length + after.length + 1 := by
  obtain ⟨hlags, hiff⟩ := lags_before h hlast
  have hlength : source.toList.length = before.length + (piece.length + after.length) := by
    rw [h.text, List.length_append, List.length_append]
  have hstart := h.start
  have hstop := h.stop
  rw [location?_eq_some_iff h, ← byteLength_eq_length_iff, ← hiff, Drawable]
  constructor
  · rintro ⟨⟨hinside, hreach⟩, hposition⟩
    have hbytes : byteLength before = before.length := by
      refine (length_le_byteLength before).antisymm' (Nat.le_of_not_lt fun hlt => ?_)
      have hlater : (walk ⟨1, 1⟩ source.toList before.length).address <
          (walk ⟨1, 1⟩ source.toList span.start).address :=
        address_walk_lt (by omega) hinside
      rw [← hposition] at hlater
      exact absurd hlater hlags.address_le.not_gt
    have hsame : span.start = before.length := by omega
    rw [hsame] at hposition
    exact ⟨hbytes, hposition, by omega⟩
  · rintro ⟨hbytes, hposition, hreach⟩
    have hsame : span.start = before.length := by omega
    rw [hsame]
    exact ⟨⟨by omega, .inr (by omega)⟩, hposition⟩

end Compare

end Cut

/-! ### Errors of a source text -/

/-- The line ends. -/
def lineEnds : List Char :=
  ['\n', '\x0b', '\x0c', '\r', '\u0085', '\u2028', '\u2029']

theorem mem_lineEnds {c : Char} (h : isLineEnd c = true) : c ∈ lineEnds := by
  have hcode : c.toNat ∈ [0xA, 0xB, 0xC, 0xD, 0x85, 0x2028, 0x2029] := by
    simpa [isLineEnd] using h
  rw [← Char.ofNat_toNat c]
  exact List.mem_map_of_mem (f := Char.ofNat) hcode

theorem getLast?_of_mem_quotedPattern {q : Char} {text : List Char} (h : text ∈ quotedPattern q) :
    text.getLast? = some q := by
  obtain ⟨body, -, rfl⟩ := mem_quotedPattern.1 h
  rw [← List.cons_append, List.getLast?_concat]

/-- **No token ends in a line end.** -/
theorem isLineEnd_of_mem_pattern {t : Token} {text : List Char} {c : Char} (h : text ∈ t.pattern)
    (hlast : text.getLast? = some c) : isLineEnd c = false := by
  rw [← Bool.not_eq_true]
  intro hend
  have hmem := mem_lineEnds hend
  have htext : c ∈ text := List.mem_of_getLast? hlast
  cases t with
  | str content =>
    rcases h with hquoted | hquoted
    all_goals
      rw [getLast?_of_mem_quotedPattern hquoted] at hlast
      cases hlast
      exact absurd hmem (by decide)
  | number spelling =>
    have hother : ∀ d ∈ lineEnds, d.isDigit = false ∧ d ∉ ['-', '.', 'e', 'E', '+'] := by
      simp [lineEnds]
    exact (mem_numberPattern.1 h).not_mem (hother c hmem).1 (hother c hmem).2 htext
  | word spelling =>
    have hother : ∀ d ∈ lineEnds, ¬ isWordChar d = true := by simp [lineEnds, isWordChar]
    exact hother c hmem (isWordChar_of_mem_wordPattern h c htext)
  | _ =>
    obtain ⟨d, rfl, rfl⟩ := h
    cases hlast
    exact absurd hmem (by decide)

section Errors
variable {source name : String} {e : SourceError} {before piece after : List Char}

theorem isLineEnd_of_concerns (h : Concerns source e before piece after)
    (hend : piece ++ after = []) {c : Char} (hlast : before.getLast? = some c) :
    isLineEnd c = false := by
  rcases h.ended (List.append_eq_nil_iff.1 hend).1 with rfl | ⟨front, text, t, rfl, hne, hpattern⟩
  · cases hlast
  · rw [List.getLast?_append_of_ne_nil _ hne] at hlast
    exact isLineEnd_of_mem_pattern hpattern hlast

/-- **The position above the excerpt of an error** of a source text. The headline names the position
of the error. What is shown above the excerpt is the place as many characters into the text as there
are bytes before the error, and nothing if there are too few characters. It is never before the
position of the error, and it is that position exactly if the text before the error has characters
of one byte and plain line ends only, and the error is not too wide for the rest of the text. -/
theorem shown_position_iff (name : String) (h : readProgram source = .error e) :
    ∃ before piece after, source.toList = before ++ (piece ++ after) ∧
      e.span = ⟨byteLength before, byteLength before + byteLength piece⟩ ∧
      (∃ below, render source name e = headline e ++ "\n" ++ below) ∧
      (∀ p, Shows source name e p ↔
        Drawable source.toList e.span ∧ p = walk ⟨1, 1⟩ source.toList e.span.start) ∧
      (∀ p, Shows source name e p → e.position.address ≤ p.address) ∧
      (Shows source name e e.position ↔
        (∀ c ∈ before, c.utf8Size = 1) ∧ PlainEnds before (piece ++ after) ∧
          byteLength piece ≤ piece.length + after.length + 1) := by
  obtain ⟨before, piece, after, hconcerns⟩ := exists_concerns_of_readProgram h
  have hcut := hconcerns.cut
  have hlast : piece ++ after = [] → ∀ c, before.getLast? = some c → isLineEnd c = false :=
    fun hend _ hc => isLineEnd_of_concerns hconcerns hend hc
  obtain ⟨below, hrender, -⟩ := render_eq source name e
  refine ⟨before, piece, after, hcut.text, hcut.span_eq, ⟨below, hrender⟩, ?_, ?_, ?_⟩
  · intro p
    rw [shows_iff, location?_eq_some_iff hcut]
  · intro p hshown
    rw [hconcerns.position]
    exact address_le_of_location?_eq hcut hlast (shows_iff.1 hshown)
  · rw [shows_iff, hconcerns.position]
    exact location?_eq_position_iff hcut hlast

end Errors

/-- A line that ends in a carriage return and a line feed. -/
theorem shown_position_iff_return :
    readProgram "// one\r\n@" = .error ⟨⟨2, 1⟩, ⟨8, 9⟩, "unexpected character: \"@\""⟩ ∧
      ∀ p, Shows "// one\r\n@" "game.cv" ⟨⟨2, 1⟩, ⟨8, 9⟩, "unexpected character: \"@\""⟩ p ↔
        p = ⟨2, 1⟩ := by
  have hread : readProgram "// one\r\n@" =
      .error ⟨⟨2, 1⟩, ⟨8, 9⟩, "unexpected character: \"@\""⟩ := by decide +kernel
  obtain ⟨-, -, -, -, -, -, hshown, -, -⟩ := shown_position_iff "game.cv" hread
  refine ⟨hread, fun p => (hshown p).trans ?_⟩
  have hwalk : walk ⟨1, 1⟩ "// one\r\n@".toList 8 = ⟨2, 1⟩ := by decide +kernel
  rw [hwalk]
  exact and_iff_right ⟨by decide, .inr (by decide)⟩

/-- The position above an excerpt is another than that of the error if the text before it has a
character of two bytes or a form feed, and there is none for a wide character at the end. -/
theorem shown_position_differs :
    (∃ e, readProgram "// é\n@" = .error e ∧ e.position = ⟨2, 1⟩ ∧
      Shows "// é\n@" "game.cv" e ⟨2, 2⟩ ∧ ¬ Shows "// é\n@" "game.cv" e e.position) ∧
    (∃ e, readProgram "\x0c@" = .error e ∧ e.position = ⟨1, 2⟩ ∧
      Shows "\x0c@" "game.cv" e ⟨2, 1⟩ ∧ ¬ Shows "\x0c@" "game.cv" e e.position) ∧
    (∃ e, readProgram "日" = .error e ∧ e.position = ⟨1, 1⟩ ∧
      ∀ p, ¬ Shows "日" "game.cv" e p) := by
  simp only [shows_iff]
  refine ⟨⟨⟨⟨2, 1⟩, ⟨6, 7⟩, "unexpected character: \"@\""⟩, ?_⟩,
    ⟨⟨⟨1, 2⟩, ⟨1, 2⟩, "unexpected character: \"@\""⟩, ?_⟩,
    ⟨⟨1, 1⟩, ⟨0, 3⟩, "unexpected character: \"日\""⟩, ?_⟩
  · decide +kernel
  · decide +kernel
  · have hnone : location? "日" ⟨0, 3⟩ = none := by decide +kernel
    exact ⟨by decide +kernel, rfl, by simp [hnone]⟩

end EntityForge.Excerpt
