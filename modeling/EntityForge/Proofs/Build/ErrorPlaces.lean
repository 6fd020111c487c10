import EntityForge.Proofs.Text.Positions
import EntityForge.Proofs.Grammar.Acceptance
import EntityForge.Proofs.Include.Limit
import EntityForge.Build.Compile

/-! # Where errors stand

An error in a source text is about a part of it: a fault of the scanner, a token that the grammar
does not allow, a project declared again, or the end of the last token. An include that cannot be
expanded is a part of the text of the pass that meets it. All these parts start and stop between
characters, so line and column of an error say where it starts, and errors at different places of a
text are told apart by them.

* `exists_cut_of_mem_items`: tokens and faults are parts of the text.
* `span_of_parseDescription`: the spans of faults of the grammar.
* `Concerns`, `exists_concerns_of_readProgram`: the part of a text that an error is about.
* `PlacedIn`: an error whose position is that of a place in a text.
* `placedIn_of_expandIncludes`: errors of includes.
* `positions_are_addresses`: lines and columns as addresses. -/

namespace EntityForge

/-! ### Parts of the text -/

section Cut
variable {cs before piece after : List Char} {span : Span}

/-- **The span of a part,** in bytes from the start of the text. -/
theorem Cut.span_eq (h : Cut 0 cs span before piece after) :
    span = ⟨byteLength before, byteLength before + byteLength piece⟩ := by
  have hstart := h.start
  have hstop := h.stop
  rw [Nat.zero_add] at hstart hstop
  rw [← hstop, ← hstart]

theorem Cut.isBoundary_start (h : Cut 0 cs span before piece after) : IsBoundary cs span.start :=
  ⟨before, piece ++ after, h.text, by rw [h.span_eq]⟩

theorem Cut.isBoundary_stop (h : Cut 0 cs span before piece after) : IsBoundary cs span.stop :=
  ⟨before ++ piece, after, by rw [h.text, List.append_assoc],
    by rw [h.span_eq, byteLength_append]⟩

end Cut

theorem exists_cut_of_isBoundary {cs : List Char} {start stop : ℕ} (hle : start ≤ stop)
    (hstart : IsBoundary cs start) (hstop : IsBoundary cs stop) :
    ∃ before piece after, Cut 0 cs ⟨start, stop⟩ before piece after := by
  obtain ⟨before, rest, hcs, hbefore⟩ := hstart
  obtain ⟨upto, after, hcs', hupto⟩ := hstop
  rw [hbefore, hupto] at hle
  obtain ⟨piece, rfl, hrest⟩ := exists_append_of_byteLength_le (hcs.symm.trans hcs') hle
  exact ⟨before, piece, after, by rw [hcs, hrest], by rw [hbefore, Nat.zero_add],
    by rw [hupto, byteLength_append, Nat.zero_add]⟩

section Scan
variable {source : String}

theorem exists_item_of_mem_tokens {t : Located Token} (h : t ∈ (scan source).tokens) :
    ⟨.token t.val, t.span⟩ ∈ itemsFrom 0 source.toList := by
  rw [scan_eq] at h
  obtain ⟨⟨m, span⟩, hm, htoken⟩ := List.mem_filterMap.1 h
  cases m with
  | token u =>
    cases htoken
    exact hm
  | _ => cases htoken

theorem exists_item_of_mem_faults {f : Located ScanFault} (h : f ∈ (scan source).faults) :
    ⟨.fault f.val, f.span⟩ ∈ itemsFrom 0 source.toList := by
  rw [scan_eq] at h
  obtain ⟨⟨m, span⟩, hm, hfault⟩ := List.mem_filterMap.1 h
  cases m with
  | fault u =>
    cases hfault
    exact hm
  | _ => cases hfault

/-- **Tokens and faults are parts of the text.** -/
theorem exists_cut_of_mem_items {m : Located Meaning} (h : m ∈ itemsFrom 0 source.toList) :
    ∃ before piece after, Cut 0 source.toList m.span before piece after ∧ piece ≠ [] ∧
      m.val.Fits piece after := by
  have htiling := tiling_itemsFrom 0 source.toList
  obtain ⟨before, piece, after, hcut, hfits⟩ := htiling.fits m h
  refine ⟨before, piece, after, hcut, ?_, hfits⟩
  rintro rfl
  have hlt := htiling.nonempty m h
  rw [hcut.start, hcut.stop, byteLength_nil, Nat.add_zero] at hlt
  exact lt_irrefl _ hlt

theorem exists_cut_of_mem_tokens {t : Located Token} (h : t ∈ (scan source).tokens) :
    ∃ before piece after, Cut 0 source.toList t.span before piece after ∧ piece ≠ [] ∧
      piece ∈ t.val.pattern := by
  obtain ⟨before, piece, after, hcut, hpiece, hfits⟩ :=
    exists_cut_of_mem_items (exists_item_of_mem_tokens h)
  exact ⟨before, piece, after, hcut, hpiece, hfits.spelled⟩

theorem pairwise_tokens (source : String) :
    (scan source).tokens.Pairwise fun t u => t.span.stop ≤ u.span.start := by
  have hspan : ∀ {m : Located Meaning} {t : Located Token},
      m.token? = some t → t.span = m.span := by
    rintro ⟨m, span⟩ t h
    cases m with
    | token u =>
      cases h
      rfl
    | _ => cases h
  rw [scan_eq]
  refine (tiling_itemsFrom 0 source.toList).ordered.filterMap _ fun m n hle t ht u hu => ?_
  rwa [hspan ht, hspan hu]

end Scan

/-! ### Faults of the grammar -/

/-- The tokens of a project declaration are a keyword and a name, and its span reaches from one to
the other. -/
theorem DescriptionTree.exists_tokens_of_project {d : DescriptionTree} {name : Name} {span : Span}
    (h : (name, span) ∈ d.projects) :
    ∃ keyword last : Located Token, [keyword, last].Sublist d.tokens ∧
      span = ⟨keyword.span.start, last.span.stop⟩ := by
  obtain ⟨tree, htree, hproject⟩ := List.mem_filterMap.1 h
  cases tree with
  | project keyword name =>
    cases hproject
    obtain ⟨front, rest, rfl⟩ := List.append_of_mem htree
    refine ⟨⟨.word "project", keyword⟩, name.token, ?_, ?_⟩
    · have hinside : (DeclarationTree.project keyword name).tokens <:+:
          DescriptionTree.tokens (front ++ .project keyword name :: rest) := by
        rw [DescriptionTree.tokens, List.flatMap_append, List.flatMap_cons]
        exact ⟨_, _, List.append_assoc ..⟩
      exact hinside.sublist
    · cases name <;> rfl
  | _ => cases hproject

/-- **Where a fault of the grammar stands:** at a token, from a keyword to the token of a name, or
behind the last token. -/
theorem span_of_parseDescription {ts : List (Located Token)} {fs : ParseFaults}
    (h : parseDescription ts = .error fs) :
    (∃ t ∈ ts, fs.first.span = t.span) ∨
    (∃ t u, [t, u].Sublist ts ∧ fs.first.span = ⟨t.span.start, u.span.stop⟩) ∨
    fs.first.span = ⟨endOfTokens ts, endOfTokens ts⟩ := by
  rcases hrun : declarationReader.run ts with m | ds
  · rw [parseDescription, hrun] at h
    cases h
    rcases Machine.exists_of_runFrom_eq_error hrun with
      ⟨before, t, rest, s, rfl, -, -, rfl⟩ | ⟨s, -, -, rfl⟩
    · exact .inl ⟨t, List.mem_append_right _ List.mem_cons_self, rfl⟩
    · exact .inr (.inr rfl)
  · obtain ⟨d, rfl, -⟩ := run_declarationReader_eq_ok_iff.1 hrun
    rw [parseDescription_tokens] at h
    split at h
    · cases h
      exact .inr (.inr rfl)
    · cases h
    · next name span other again others hprojects =>
      cases h
      have hmem : (other, again) ∈ d.projects := by simp [hprojects]
      exact .inr (.inl (DescriptionTree.exists_tokens_of_project hmem))

/-! ### Errors of a source text -/

/-- **The part of a text that an error is about.** It is empty only where the text should have gone
on: at the start if there is no token, or behind one. -/
structure Concerns (source : String) (e : SourceError) (before piece after : List Char) :
    Prop where
  cut : Cut 0 source.toList e.span before piece after
  position : e.position = Position.after before
  ended : piece = [] → before = [] ∨ ∃ front text, ∃ t : Token,
    before = front ++ text ∧ text ≠ [] ∧ text ∈ t.pattern

section Concerns
variable {source : String} {span : Span} {before piece after : List Char}

theorem position_at_cut (hcut : Cut 0 source.toList span before piece after) (message : String) :
    (SourceError.at source span message).position = Position.after before := by
  rw [SourceError.at, hcut.span_eq]
  exact Position.ofOffset_boundary hcut.text

theorem concerns_of_ne_nil (hcut : Cut 0 source.toList span before piece after)
    (hpiece : piece ≠ []) (message : String) :
    Concerns source (.at source span message) before piece after :=
  ⟨hcut, position_at_cut hcut message, fun hnil => absurd hnil hpiece⟩

theorem exists_concerns_of_endOfTokens (source message : String) :
    ∃ before piece after, Concerns source (.at source
      ⟨endOfTokens (scan source).tokens, endOfTokens (scan source).tokens⟩ message)
      before piece after := by
  unfold endOfTokens
  rcases hlast : (scan source).tokens.getLast? with _ | t
  · have hcut : Cut 0 source.toList ⟨0, 0⟩ [] [] source.toList := ⟨rfl, rfl, rfl⟩
    exact ⟨_, _, _, hcut, position_at_cut hcut message, fun _ => .inl rfl⟩
  · obtain ⟨before, piece, after, hcut, hpiece, hpattern⟩ :=
      exists_cut_of_mem_tokens (List.mem_of_getLast? hlast)
    have hend : Cut 0 source.toList ⟨t.span.stop, t.span.stop⟩ (before ++ piece) [] after :=
      ⟨by rw [hcut.text, List.append_assoc]; rfl,
        by rw [hcut.stop, byteLength_append, Nat.add_assoc],
        by rw [hcut.stop, byteLength_append, byteLength_nil, Nat.add_assoc]; rfl⟩
    exact ⟨_, _, _, hend, position_at_cut hend message,
      fun _ => .inr ⟨before, piece, t.val, rfl, hpiece, hpattern⟩⟩

theorem exists_cut_of_sublist {t u : Located Token} (h : [t, u].Sublist (scan source).tokens) :
    ∃ before piece after, Cut 0 source.toList ⟨t.span.start, u.span.stop⟩ before piece after ∧
      piece ≠ [] := by
  have hle : t.span.stop ≤ u.span.start := by simpa using (pairwise_tokens source).sublist h
  obtain ⟨before, piece, after, hcut, hpiece, -⟩ :=
    exists_cut_of_mem_tokens (h.subset List.mem_cons_self)
  obtain ⟨_, _, _, hlast, -, -⟩ :=
    exists_cut_of_mem_tokens (h.subset (List.mem_cons_of_mem t List.mem_cons_self))
  have hpos : 0 < byteLength piece := Nat.pos_of_ne_zero (mt byteLength_eq_zero_iff.1 hpiece)
  have hlt : t.span.start < u.span.stop := by
    have := hcut.start
    have := hcut.stop
    have := hlast.start
    have := hlast.stop
    omega
  obtain ⟨before, piece, after, hboth⟩ :=
    exists_cut_of_isBoundary hlt.le hcut.isBoundary_start hlast.isBoundary_stop
  refine ⟨before, piece, after, hboth, ?_⟩
  rintro rfl
  have hstart := hboth.start
  have hstop := hboth.stop
  rw [byteLength_nil, Nat.add_zero, ← hstart] at hstop
  exact absurd hstop hlt.ne'

/-- **Every error of a source text is about a part of it.** -/
theorem exists_concerns_of_readProgram {e : SourceError} (h : readProgram source = .error e) :
    ∃ before piece after, Concerns source e before piece after := by
  unfold readProgram at h
  dsimp only at h
  split at h
  · next f fs hfaults =>
    cases h
    obtain ⟨before, piece, after, hcut, hpiece, -⟩ :=
      exists_cut_of_mem_items (exists_item_of_mem_faults (hfaults ▸ List.mem_cons_self))
    exact ⟨before, piece, after, concerns_of_ne_nil hcut hpiece _⟩
  · split at h
    · cases h
    · next fs hparse =>
      cases h
      rcases span_of_parseDescription hparse with ⟨t, ht, hspan⟩ | ⟨t, u, htu, hspan⟩ | hspan
      · rw [hspan]
        obtain ⟨before, piece, after, hcut, hpiece, -⟩ := exists_cut_of_mem_tokens ht
        exact ⟨before, piece, after, concerns_of_ne_nil hcut hpiece _⟩
      · rw [hspan]
        obtain ⟨before, piece, after, hcut, hpiece⟩ := exists_cut_of_sublist htu
        exact ⟨before, piece, after, concerns_of_ne_nil hcut hpiece _⟩
      · rw [hspan]
        exact exists_concerns_of_endOfTokens source _

end Concerns

/-! ### Errors of includes -/

section Include
variable {store : Store} {folder : String}

theorem exists_start_of_expandLines {lines : List (List Char)} {f : Located IncludeFault} :
    ∀ {offset : ℕ} {expanded : List Path},
      expandLines store folder offset expanded lines = .error f →
      ∃ before after, lines.flatten = before ++ after ∧
        f.span.start = offset + byteLength before := by
  induction lines with
  | nil =>
    intro offset expanded h
    cases h
  | cons line lines ih =>
    intro offset expanded h
    have hlater : ∀ {files : List Path},
        expandLines store folder (offset + byteLength line) files lines = .error f →
        ∃ before after, (line :: lines).flatten = before ++ after ∧
          f.span.start = offset + byteLength before := by
      intro files hrest
      obtain ⟨before, after, hflatten, hstart⟩ := ih hrest
      refine ⟨line ++ before, after, ?_, ?_⟩
      · rw [List.flatten_cons, hflatten, List.append_assoc]
      · rw [hstart, byteLength_append, Nat.add_assoc]
    rw [expandLines] at h
    split at h
    · split at h
      · cases h
      · next hrest =>
        cases h
        exact hlater hrest
    · cases h
      exact ⟨[], _, rfl, rfl⟩
    · next indent path hparse =>
      split at h
      · cases h
        obtain ⟨hindent, -⟩ := Directive.parse?_eq_wellFormed hparse
        obtain ⟨rest, hrest⟩ := List.takeWhile_prefix (l := Text.lineBody line) Text.isBlank
        refine ⟨indent, rest ++ (Text.lineEnd line ++ lines.flatten), ?_, rfl⟩
        rw [List.flatten_cons, hindent, ← List.append_assoc, hrest, ← List.append_assoc,
          Text.lineBody_append_lineEnd]
      · split at h
        · cases h
        · next hrest =>
          cases h
          exact hlater hrest

/-- **An error at a place of a text,** with the position of that place. -/
structure PlacedIn (text : List Char) (e : SourceError) : Prop where
  boundary : IsBoundary text e.span.start
  position : e.position = Position.ofOffset (String.ofList text) e.span.start

theorem placedIn_of_expandPasses {n : ℕ} {e : SourceError} : ∀ {expanded : List Path}
    {text : List Char}, expandPasses store folder n expanded text = .error e →
      ∃ k ≤ n, ∃ out files, expandTimes store folder k expanded text = .ok (out, files) ∧
        PlacedIn out e := by
  induction n with
  | zero =>
    intro expanded text h
    cases h
    exact ⟨0, le_rfl, text, expanded, rfl, ⟨[], text, rfl, rfl⟩, rfl⟩
  | succ n ih =>
    intro expanded text h
    rw [expandPasses] at h
    split at h
    · next f hpass =>
      cases h
      obtain ⟨before, after, hflatten, hstart⟩ := exists_start_of_expandLines hpass
      rw [Text.flatten_splitLines] at hflatten
      rw [Nat.zero_add] at hstart
      exact ⟨0, Nat.zero_le _, text, expanded, rfl, ⟨before, after, hflatten, hstart⟩, rfl⟩
    · next next files hpass =>
      split_ifs at h with hsame
      obtain ⟨k, hk, out, last, htimes, hplaced⟩ := ih h
      exact ⟨k + 1, Nat.succ_le_succ hk, out, last,
        expandTimes_succ_eq_ok_iff.2 ⟨next, files, hpass, htimes⟩, hplaced⟩

/-- **An error of an include** is at a place of the text of a pass. -/
theorem placedIn_of_expandIncludes {origin : Origin} {source : String} {e : SourceError}
    (h : expandIncludes store origin source = .error e) :
    ∃ n ≤ 64, ∃ text, textAfter store origin source n = .ok text ∧ PlacedIn text e := by
  obtain ⟨n, hn, text, files, htimes, hplaced⟩ :=
    placedIn_of_expandPasses (expandIncludes_eq_error_iff.1 h)
  exact ⟨n, hn, text, textAfter_eq_ok_iff.2 ⟨files, htimes⟩, hplaced⟩

end Include

/-- **Line and column are an address.** An offset beyond the end has the position of the end, and
one inside a character that of its first byte; the line counts the line feeds before an offset, and
the column the characters behind the last of them; and the positions of boundaries are in the order
of the boundaries. The errors of a source text and of its includes start at boundaries, so their
positions say where. -/
theorem positions_are_addresses (source : String) :
    (∀ offset, byteLength source.toList ≤ offset →
      Position.ofOffset source offset = Position.ofOffset source (byteLength source.toList)) ∧
    (∀ before c after offset, source.toList = before ++ c :: after → byteLength before ≤ offset →
      offset < byteLength before + c.utf8Size →
      Position.ofOffset source offset = Position.ofOffset source (byteLength before)) ∧
    (∀ a b, IsBoundary source.toList a → IsBoundary source.toList b → a < b →
      (Position.ofOffset source a).address < (Position.ofOffset source b).address) ∧
    (∀ before after, source.toList = before ++ after →
      (Position.ofOffset source (byteLength before)).line = 1 + before.count '\n' ∧
      ∃ lines current, before = lines ++ current ∧ (lines = [] ∨ lines.getLast? = some '\n') ∧
        '\n' ∉ current ∧
        (Position.ofOffset source (byteLength before)).column = 1 + current.length) ∧
    (∀ e, readProgram source = .error e → PlacedIn source.toList e) ∧
    (∀ store origin e, expandIncludes store origin source = .error e →
      ∃ n ≤ 64, ∃ text, textAfter store origin source n = .ok text ∧ PlacedIn text e) ∧
    ∀ e e', PlacedIn source.toList e → PlacedIn source.toList e' → e.position = e'.position →
      e.span.start = e'.span.start := by
  refine ⟨fun offset h => ?_, fun before c after offset hsource hle hlt => ?_, fun a b =>
    Position.ofOffset_lt, fun before after hsource => ?_, fun e h => ?_, fun _ _ _ =>
    placedIn_of_expandIncludes, fun e e' he he' h => ?_⟩
  · rw [Position.ofOffset_end h, Position.ofOffset_end le_rfl]
  · rw [Position.ofOffset_inside hsource hle hlt, Position.ofOffset_boundary hsource]
  · rw [Position.ofOffset_boundary hsource]
    exact Position.after_counts before
  · obtain ⟨before, piece, after, hconcerns⟩ := exists_concerns_of_readProgram h
    refine ⟨hconcerns.cut.isBoundary_start, ?_⟩
    rw [hconcerns.position, String.ofList_toList, hconcerns.cut.span_eq,
      Position.ofOffset_boundary hconcerns.cut.text]
  · rw [he.position, he'.position, String.ofList_toList] at h
    exact Position.eq_of_ofOffset_eq he.boundary he'.boundary h

/-- A text with characters of two and of three bytes. -/
def accentedSource : String :=
  "// é\n日 @"

/-- Its first error is at the wide character, and the other text includes nothing. -/
theorem positions_are_addresses_wide :
    (Position.ofOffset accentedSource 99 = ⟨2, 4⟩ ∧ Position.ofOffset accentedSource 8 = ⟨2, 1⟩ ∧
      (Position.ofOffset accentedSource 5).address < (Position.ofOffset accentedSource 6).address) ∧
    (readProgram accentedSource = .error ⟨⟨2, 1⟩, ⟨6, 9⟩, "unexpected character: \"日\""⟩ ∧
      ∀ e, PlacedIn accentedSource.toList e → e.position = ⟨2, 1⟩ → e.span.start = 6) ∧
    expandIncludes {} ⟨".", none⟩ "é\n #include"
      = .error ⟨⟨2, 1⟩, ⟨3, 12⟩, IncludeFault.malformed.message⟩ ∧
    ∃ n ≤ 64, ∃ text, textAfter {} ⟨".", none⟩ "é\n #include" n = .ok text ∧
      PlacedIn text ⟨⟨2, 1⟩, ⟨3, 12⟩, IncludeFault.malformed.message⟩ := by
  obtain ⟨hend, hinside, hlt, -, hplaced, -, hunique⟩ := positions_are_addresses accentedSource
  obtain ⟨-, -, -, -, -, hincludes, -⟩ := positions_are_addresses "é\n #include"
  have hread : readProgram accentedSource
      = .error ⟨⟨2, 1⟩, ⟨6, 9⟩, "unexpected character: \"日\""⟩ := by decide +kernel
  have hinclude : expandIncludes {} ⟨".", none⟩ "é\n #include"
      = .error ⟨⟨2, 1⟩, ⟨3, 12⟩, IncludeFault.malformed.message⟩ := by decide +kernel
  have hfive : IsBoundary accentedSource.toList 5 :=
    ⟨"// é".toList, "\n日 @".toList, by decide +kernel, by decide +kernel⟩
  have hsix : IsBoundary accentedSource.toList 6 :=
    ⟨"// é\n".toList, "日 @".toList, by decide +kernel, by decide +kernel⟩
  refine ⟨⟨?_, ?_, hlt 5 6 hfive hsix (by decide)⟩, ⟨hread, fun e he hposition => ?_⟩, hinclude,
    hincludes _ _ _ hinclude⟩
  · rw [hend 99 (by decide +kernel)]
    decide +kernel
  · rw [hinside "// é\n".toList '日' " @".toList 8 (by decide +kernel) (by decide +kernel)
      (by decide +kernel)]
    decide +kernel
  · exact hunique e _ he (hplaced _ hread) hposition

end EntityForge
