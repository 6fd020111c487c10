import EntityForge.Proofs.Include.Lines
import EntityForge.Proofs.Store.Spelling

/-! # Recursive inlining

What the includes of a text stand for, said by recursion on files: a directive stands for the text
of its file, in which the directives stand for the texts of their own files, seen from there. The
recursion need not end, so it is a relation between a text and its outcome.

* `Inlines`: the lines of a text and what they stand for.
* `Inlines.unique`: they stand for one thing.
* `inlines_append_iff`: a text is inlined part by part.
* `inlines_rebase_iff`: a text means the same from anywhere once its directives are rebased. -/

namespace EntityForge

open Text

/-- **A text with its includes in place,** the files that were put in, and how deeply they were
nested. -/
structure Inlined where
  text : List Char
  files : List Path
  depth : ℕ

/-- **The lines of a text, seen from a directory, and what they stand for.** An ordinary line is
kept. A directive is replaced by what its file stands for, seen from the place of its own directory
and read without a line feed at its end, and keeps its own line feed. -/
inductive Inlines (store : Store) : Base → List (List Char) → Inlined → Prop
  | nil (base : Base) : Inlines store base [] ⟨[], [], 0⟩
  | keep {base : Base} {line : List Char} {lines : List (List Char)} {rest : Inlined}
      (hline : Directive.parse? (lineBody line) = none) (hrest : Inlines store base lines rest) :
      Inlines store base (line :: lines) ⟨line ++ rest.text, rest.files, rest.depth⟩
  | expand {base : Base} {line : List Char} {lines : List (List Char)} {indent : List Char}
      {path contents : String} {file : Path} {inner rest : Inlined}
      (hline : Directive.parse? (lineBody line) = some (.wellFormed indent path))
      (hfile : store.follow base path = .ok file)
      (hread : store.readAt file = .ok contents)
      (hinner : Inlines store (.place file.dropLast)
        (splitLines (dropFinalNewline contents.toList)) inner)
      (hrest : Inlines store base lines rest) :
      Inlines store base (line :: lines)
        ⟨inner.text ++ lineEnd line ++ rest.text, file :: (inner.files ++ rest.files),
          max (inner.depth + 1) rest.depth⟩

variable {store : Store} {base : Base}

/-- **Lines stand for one thing.** -/
theorem Inlines.unique {lines : List (List Char)} {a b : Inlined} (ha : Inlines store base lines a)
    (hb : Inlines store base lines b) : a = b := by
  induction ha generalizing b with
  | nil => cases hb; rfl
  | keep hline _ ih =>
    cases hb with
    | keep _ hrest => rw [ih hrest]
    | expand hline' => rw [hline] at hline'; cases hline'
  | expand hline hfile hread _ _ ihinner ihrest =>
    cases hb with
    | keep hline' => rw [hline] at hline'; cases hline'
    | expand hline' hfile' hread' hinner' hrest' =>
      rw [hline] at hline'
      cases hline'
      rw [hfile] at hfile'
      cases hfile'
      rw [hread] at hread'
      cases hread'
      rw [ihinner hinner', ihrest hrest']

/-! ### One line -/

/-- What a line without its line feed stands for. -/
inductive Stands (store : Store) (base : Base) (body : List Char) : Inlined → Prop
  | keep (hline : Directive.parse? body = none) : Stands store base body ⟨body, [], 0⟩
  | expand {indent : List Char} {path contents : String} {file : Path} {inner : Inlined}
      (hline : Directive.parse? body = some (.wellFormed indent path))
      (hfile : store.follow base path = .ok file)
      (hread : store.readAt file = .ok contents)
      (hinner : Inlines store (.place file.dropLast)
        (splitLines (dropFinalNewline contents.toList)) inner) :
      Stands store base body ⟨inner.text, file :: inner.files, inner.depth + 1⟩

/-- One inlined text behind another, with `sep` between them. -/
def Inlined.join (a : Inlined) (sep : List Char) (b : Inlined) : Inlined :=
  ⟨a.text ++ sep ++ b.text, a.files ++ b.files, max a.depth b.depth⟩

theorem Inlined.join_assoc (a b c : Inlined) (s t : List Char) :
    (a.join s b).join t c = a.join s (b.join t c) := by
  simp only [Inlined.join, List.append_assoc, Nat.max_assoc]

theorem inlines_nil_iff {r : Inlined} : Inlines store base [] r ↔ r = ⟨[], [], 0⟩ := by
  constructor
  · intro h
    cases h
    rfl
  · rintro rfl
    exact .nil base

theorem inlines_cons_iff {line : List Char} {lines : List (List Char)} {r : Inlined} :
    Inlines store base (line :: lines) r ↔ ∃ a b, Stands store base (lineBody line) a ∧
      Inlines store base lines b ∧ r = a.join (lineEnd line) b := by
  constructor
  · intro h
    cases h with
    | @keep _ _ _ rest hline hrest =>
      refine ⟨_, rest, .keep hline, hrest, ?_⟩
      simp only [Inlined.join, lineBody_append_lineEnd, List.nil_append, Nat.zero_max]
    | @expand _ _ _ _ _ _ _ inner rest hline hfile hread hinner hrest =>
      exact ⟨_, rest, .expand hline hfile hread hinner, hrest, rfl⟩
  · rintro ⟨a, b, ha, hb, rfl⟩
    cases ha with
    | keep hline =>
      simp only [Inlined.join, lineBody_append_lineEnd, List.nil_append, Nat.zero_max]
      exact .keep hline hb
    | expand hline hfile hread hinner => exact .expand hline hfile hread hinner hb

/-! ### Texts line by line -/

theorem inlines_last_iff {body : List Char} (h : '\n' ∉ body) {r : Inlined} :
    Inlines store base (splitLines body) r ↔ Stands store base body r := by
  by_cases hne : body = []
  · subst hne
    rw [splitLines, inlines_nil_iff]
    constructor
    · rintro rfl
      exact .keep rfl
    · intro hr
      cases hr with
      | keep => rfl
      | expand hline => cases hline
  · rw [splitLines_last h hne, inlines_cons_iff, lineBody_last h, lineEnd_last h]
    constructor
    · rintro ⟨a, b, ha, hb, rfl⟩
      obtain rfl := inlines_nil_iff.1 hb
      simpa [Inlined.join] using ha
    · intro hr
      exact ⟨r, _, hr, .nil base, by simp [Inlined.join]⟩

theorem inlines_line_iff {body : List Char} (h : '\n' ∉ body) {rest : List Char} {r : Inlined} :
    Inlines store base (splitLines (body ++ '\n' :: rest)) r ↔ ∃ a b, Stands store base body a ∧
      Inlines store base (splitLines rest) b ∧ r = a.join ['\n'] b := by
  rw [splitLines_line h, inlines_cons_iff, lineBody_line, lineEnd_line]

/-- **Texts with a line feed between them** are inlined one by one. -/
theorem inlines_append_iff {text rest : List Char} {r : Inlined} :
    Inlines store base (splitLines (text ++ '\n' :: rest)) r ↔ ∃ a b,
      Inlines store base (splitLines text) a ∧ Inlines store base (splitLines rest) b ∧
        r = a.join ['\n'] b := by
  induction text using lines_induct generalizing r with
  | nil =>
    have hmem : '\n' ∉ ([] : List Char) := List.not_mem_nil
    simp only [inlines_line_iff hmem, inlines_last_iff hmem]
  | last body h _ => simp only [inlines_line_iff h, inlines_last_iff h]
  | line body more h ih =>
    rw [List.append_assoc, List.cons_append, inlines_line_iff h]
    constructor
    · rintro ⟨a, b, ha, hb, rfl⟩
      obtain ⟨c, d, hc, hd, rfl⟩ := ih.1 hb
      exact ⟨_, d, (inlines_line_iff h).2 ⟨a, c, ha, hc, rfl⟩, hd, (Inlined.join_assoc ..).symm⟩
    · rintro ⟨a, b, ha, hb, rfl⟩
      obtain ⟨c, d, hc, hd, rfl⟩ := (inlines_line_iff h).1 ha
      exact ⟨c, _, hc, ih.2 ⟨d, b, hd, hb, rfl⟩, Inlined.join_assoc ..⟩

theorem inlines_of_ordinary {lines : List (List Char)}
    (h : ∀ line ∈ lines, Directive.parse? (lineBody line) = none) :
    Inlines store base lines ⟨lines.flatten, [], 0⟩ := by
  induction lines with
  | nil => exact .nil base
  | cons line lines ih =>
    obtain ⟨hline, hlines⟩ := List.forall_mem_cons.1 h
    exact .keep hline (ih hlines)

theorem Inlines.text_eq_of_depth_eq_zero {lines : List (List Char)} {r : Inlined}
    (h : Inlines store base lines r) (hdepth : r.depth = 0) : r.text = lines.flatten := by
  induction h with
  | nil => rfl
  | keep _ _ ih => rw [List.flatten_cons, ← ih hdepth]
  | expand => simp only at hdepth; omega

/-! ### Seen from elsewhere -/

section Rebase
variable {folder : String} {names : List String} {dir : Path}
  (hdir : IsPlainDirectory dir.text) (hnames : store.Spells names dir)
include hdir hnames

theorem stands_rebase_iff {body : List Char} (hbody : '\n' ∉ body)
    (hpath : ∀ path ∈ includePath? body, '"' ∉ path.toList) {r : Inlined} :
    Stands store (.folder folder) (rebaseLine dir.text body) r ↔
      Stands store (.place dir) body r := by
  have hparse := parse?_rebaseLine hdir hbody hpath
  constructor
  · intro h
    rcases hb : Directive.parse? body with _ | _ | ⟨indent, path⟩
    · rw [rebaseLine_of_not_wellFormed hbody (by simp [hb])] at h
      cases h with
      | keep hline => exact .keep hline
      | expand hline => rw [hb] at hline; cases hline
    · rw [hb] at hparse
      cases h with
      | keep hline => rw [hparse] at hline; cases hline
      | expand hline => rw [hparse] at hline; cases hline
    · rw [hb] at hparse
      cases h with
      | keep hline => rw [hparse] at hline; cases hline
      | expand hline hfile hread hinner =>
        rw [hparse] at hline
        cases hline
        exact .expand hb (hnames.follow_joinPath_iff.1 hfile) hread hinner
  · intro h
    cases h with
    | keep hline =>
      rw [rebaseLine_of_not_wellFormed hbody (by simp [hline])]
      exact .keep hline
    | expand hline hfile hread hinner =>
      rw [hline] at hparse
      exact .expand hparse (hnames.follow_joinPath_iff.2 hfile) hread hinner

/-- **A rebased text means the same from anywhere.** -/
theorem inlines_rebase_iff {text : List Char}
    (hpaths : ∀ path ∈ includePaths text, '"' ∉ path.toList) {r : Inlined} :
    Inlines store (.folder folder) (splitLines (rebaseDirectives dir.text text)) r ↔
      Inlines store (.place dir) (splitLines text) r := by
  induction text using lines_induct generalizing r with
  | nil => exact inlines_nil_iff.trans inlines_nil_iff.symm
  | last body h _ =>
    have hpath : ∀ path ∈ includePath? body, '"' ∉ path.toList := fun path hp =>
      hpaths path (by rw [includePaths_last h]; exact Option.mem_toList.2 hp)
    rw [rebaseDirectives_last dir.text h, inlines_last_iff (newline_not_mem_rebaseLine hdir h),
      stands_rebase_iff hdir hnames h hpath, inlines_last_iff h]
  | line body rest h ih =>
    rw [includePaths_line h] at hpaths
    have hpath : ∀ path ∈ includePath? body, '"' ∉ path.toList := fun path hp =>
      hpaths path (List.mem_append_left _ (Option.mem_toList.2 hp))
    have hrest := fun path hp => hpaths path (List.mem_append_right _ hp)
    rw [rebaseDirectives_line dir.text h, inlines_line_iff (newline_not_mem_rebaseLine hdir h),
      inlines_line_iff h]
    simp only [stands_rebase_iff hdir hnames h hpath, ih hrest]

end Rebase

end EntityForge
