import EntityForge.Proofs.Include.Cycles

/-! # Passes that change nothing

The passes over a text stop at the first one that changes nothing. That is so when no directive is
left, and a text with directives cannot be passed over twice with the same files, since the second
pass would put them in again. So once a pass has changed nothing, no further pass leads anywhere
else, and the text that comes out stays as it is when it is expanded afresh: the second run has put
in fewer files than the first one had.

* `HasDirective`: a text with a directive left in it.
* `not_hasDirective_of_pass_twice`: no text with directives is passed over twice.
* `expandTimes`: so many passes, whether they change the text or not.
* `eq_of_expandTimes_of_same`: a pass that changes nothing is the last one that could.
* `expandLines_antitone`: a pass succeeds all the more with fewer files put in before.
* `expandIncludes_idempotent`: what has been expanded is left alone. -/

namespace EntityForge

open Text

variable {store : Store} {folder : String}

/-! ### Directives that are left -/

/-- **A text with a line that is a directive,** readable or not. -/
def HasDirective (text : List Char) : Prop :=
  ∃ line ∈ splitLines text, Directive.parse? (lineBody line) ≠ none

instance (text : List Char) : Decidable (HasDirective text) :=
  inferInstanceAs (Decidable (∃ line ∈ splitLines text, _))

theorem not_hasDirective_iff {text : List Char} :
    ¬ HasDirective text ↔ ∀ line ∈ splitLines text, Directive.parse? (lineBody line) = none := by
  simp [HasDirective]

theorem expandLines_of_ordinary {lines : List (List Char)}
    (h : ∀ line ∈ lines, Directive.parse? (lineBody line) = none) (expanded : List Path) :
    ∀ offset : ℕ,
      expandLines store folder offset expanded lines = .ok (lines.flatten, expanded) := by
  induction lines with
  | nil => exact fun _ => rfl
  | cons line lines ih =>
    intro offset
    obtain ⟨hline, hlines⟩ := List.forall_mem_cons.1 h
    refine expandLines_cons_eq_ok_iff.2 ⟨_, _, _, .keep hline, ih hlines _, ?_⟩
    rw [lineBody_append_lineEnd, List.flatten_cons]

/-- **A pass over a text without directives** changes nothing and puts nothing in. -/
theorem expandOnce_of_not_hasDirective {text : List Char} (h : ¬ HasDirective text)
    (expanded : List Path) : expandOnce store folder expanded text = .ok (text, expanded) := by
  rw [expandOnce, expandLines_of_ordinary (not_hasDirective_iff.1 h), flatten_splitLines]

theorem ne_malformed_of_pass {lines : List (List Char)} {next : List Char} {files : List Path} :
    ∀ {offset : ℕ} {expanded : List Path},
      expandLines store folder offset expanded lines = .ok (next, files) →
      ∀ line ∈ lines, Directive.parse? (lineBody line) ≠ some .malformed := by
  induction lines generalizing next with
  | nil => exact fun _ => nofun
  | cons line lines ih =>
    intro offset expanded h
    obtain ⟨new, mid, rest, hnew, hrest, -⟩ := expandLines_cons_eq_ok_iff.1 h
    refine List.forall_mem_cons.2 ⟨fun hbad => ?_, ih hrest⟩
    cases hnew with
    | keep hline => rw [hbad] at hline; cases hline
    | expand hline => rw [hbad] at hline; cases hline

theorem exists_path_of_pass {text next : List Char} {expanded files : List Path}
    (hpass : expandOnce store folder expanded text = .ok (next, files)) (h : HasDirective text) :
    ∃ path, path ∈ includePaths text := by
  obtain ⟨line, hline, hparse⟩ := h
  rcases hd : Directive.parse? (lineBody line) with _ | _ | ⟨indent, path⟩
  · exact absurd hd hparse
  · exact absurd hd (ne_malformed_of_pass hpass line hline)
  · exact ⟨path, List.mem_filterMap.2 ⟨line, hline, includePath?_eq_some_iff.2 ⟨indent, hd⟩⟩⟩

theorem mem_files_of_pass {lines : List (List Char)} {next : List Char} {files : List Path}
    {path : String} {file : Path} (hfile : store.resolve (joinPath folder path) = .ok file) :
    ∀ {offset : ℕ} {expanded : List Path},
      expandLines store folder offset expanded lines = .ok (next, files) →
      (∃ line ∈ lines, includePath? (lineBody line) = some path) → file ∈ files := by
  induction lines generalizing next with
  | nil =>
    rintro _ _ - ⟨_, hnil, -⟩
    cases hnil
  | cons line lines ih =>
    rintro offset expanded h ⟨other, hother, hpath⟩
    obtain ⟨new, mid, rest, hnew, hrest, -⟩ := expandLines_cons_eq_ok_iff.1 h
    rcases List.mem_cons.1 hother with rfl | hother
    · obtain ⟨indent, hparse⟩ := includePath?_eq_some_iff.1 hpath
      cases hnew with
      | keep hline => rw [hparse] at hline; cases hline
      | expand hline hresolve =>
        rw [hparse] at hline
        cases hline
        cases hfile.symm.trans hresolve
        exact subset_of_pass hrest List.mem_cons_self
    · exact ih hrest ⟨other, hother, hpath⟩

/-- **No text with directives is passed over twice:** the files of the first pass are not put in
again. -/
theorem not_hasDirective_of_pass_twice {text next again : List Char}
    {expanded files more : List Path}
    (hpass : expandOnce store folder expanded text = .ok (next, files))
    (htwice : expandOnce store folder files text = .ok (again, more)) : ¬ HasDirective text := by
  intro h
  obtain ⟨path, hpath⟩ := exists_path_of_pass hpass h
  obtain ⟨file, -, hfile, hfresh, -⟩ := exists_file_of_pass text htwice hpath
  exact hfresh (mem_files_of_pass hfile hpass (List.mem_filterMap.1 hpath))

/-! ### So many passes -/

/-- **So many passes over a text,** one after the other. -/
def expandTimes (store : Store) (folder : String) :
    ℕ → List Path → List Char → Except (Located IncludeFault) (List Char × List Path)
  | 0, expanded, text => .ok (text, expanded)
  | n + 1, expanded, text =>
    match expandOnce store folder expanded text with
    | .error f => .error f
    | .ok (next, files) => expandTimes store folder n files next

theorem expandTimes_succ_eq_ok_iff {n : ℕ} {expanded files : List Path} {text out : List Char} :
    expandTimes store folder (n + 1) expanded text = .ok (out, files) ↔ ∃ next mid,
      expandOnce store folder expanded text = .ok (next, mid) ∧
        expandTimes store folder n mid next = .ok (out, files) := by
  rw [expandTimes]
  rcases expandOnce store folder expanded text with f | ⟨next, mid⟩
  · simp
  · simp

theorem expandTimes_succ_eq_ok_iff_last {n : ℕ} : ∀ {expanded files : List Path}
    {text out : List Char}, expandTimes store folder (n + 1) expanded text = .ok (out, files) ↔
      ∃ before mid, expandTimes store folder n expanded text = .ok (before, mid) ∧
        expandOnce store folder mid before = .ok (out, files) := by
  induction n with
  | zero =>
    intro expanded files text out
    rw [expandTimes_succ_eq_ok_iff]
    simp [expandTimes]
  | succ n ih =>
    intro expanded files text out
    rw [expandTimes_succ_eq_ok_iff]
    constructor
    · rintro ⟨next, mid, hpass, hrest⟩
      obtain ⟨before, last, hbefore, hlast⟩ := ih.1 hrest
      exact ⟨before, last, expandTimes_succ_eq_ok_iff.2 ⟨next, mid, hpass, hbefore⟩, hlast⟩
    · rintro ⟨before, last, hbefore, hlast⟩
      obtain ⟨next, mid, hpass, hrest⟩ := expandTimes_succ_eq_ok_iff.1 hbefore
      exact ⟨next, mid, hpass, ih.2 ⟨before, last, hrest, hlast⟩⟩

theorem expandTimes_of_not_hasDirective {text : List Char} (h : ¬ HasDirective text)
    (expanded : List Path) (n : ℕ) :
    expandTimes store folder n expanded text = .ok (text, expanded) := by
  induction n with
  | zero => rfl
  | succ n ih =>
    exact expandTimes_succ_eq_ok_iff.2 ⟨_, _, expandOnce_of_not_hasDirective h expanded, ih⟩

/-- **Once a pass has changed nothing, nothing changes any more.** -/
theorem eq_of_expandTimes_of_same {n : ℕ} {expanded files last : List Path} {text out : List Char}
    (hsame : expandOnce store folder expanded text = .ok (text, files))
    (h : expandTimes store folder n files text = .ok (out, last)) : out = text := by
  rcases n with _ | n
  · cases h
    rfl
  · obtain ⟨next, mid, hpass, -⟩ := expandTimes_succ_eq_ok_iff.1 h
    have hclear := not_hasDirective_of_pass_twice hsame hpass
    rw [expandTimes_of_not_hasDirective hclear] at h
    cases h
    rfl

/-! ### Expanding again -/

theorem expandPasses_succ_of_pass {n : ℕ} {expanded files : List Path} {text next : List Char}
    (hpass : expandOnce store folder expanded text = .ok (next, files)) :
    expandPasses store folder (n + 1) expanded text
      = if next = text then .ok text else expandPasses store folder n files next := by
  rw [expandPasses, hpass]

theorem expandIncludes_eq_ok_iff {origin : Origin} {source out : String} :
    expandIncludes store origin source = .ok out ↔
      expandPasses store origin.folder passLimit (origin.expanded store) source.toList
        = .ok out.toList := by
  unfold expandIncludes
  rcases expandPasses store origin.folder passLimit (origin.expanded store) source.toList
    with f | text
  · simp [Except.map]
  · simp [Except.map, ← String.toList_inj]

theorem Replaces.antitone {body new : List Char} {expanded fewer mid : List Path}
    (h : Replaces store folder expanded body new mid) (hsub : fewer ⊆ expanded) :
    ∃ mid', mid' ⊆ mid ∧ Replaces store folder fewer body new mid' := by
  cases h with
  | keep hline => exact ⟨fewer, hsub, .keep hline⟩
  | @expand _ _ _ file hline hfile hnew hread =>
    exact ⟨file :: fewer, List.cons_subset_cons file hsub,
      .expand hline hfile (fun hmem => hnew (hsub hmem)) hread⟩

/-- **A pass leads to the same text if fewer files have been put in before.** -/
theorem expandLines_antitone {lines : List (List Char)} {next : List Char} {files : List Path} :
    ∀ {offset : ℕ} {expanded fewer : List Path}, fewer ⊆ expanded →
      expandLines store folder offset expanded lines = .ok (next, files) →
      ∃ files', expandLines store folder offset fewer lines = .ok (next, files') := by
  induction lines generalizing next with
  | nil =>
    intro offset expanded fewer _ h
    cases h
    exact ⟨fewer, rfl⟩
  | cons line lines ih =>
    intro offset expanded fewer hsub h
    obtain ⟨new, mid, rest, hnew, hrest, hnext⟩ := expandLines_cons_eq_ok_iff.1 h
    obtain ⟨mid', hmid, hnew'⟩ := hnew.antitone hsub
    obtain ⟨files', hrest'⟩ := ih hmid hrest
    exact ⟨files', expandLines_cons_eq_ok_iff.2 ⟨new, mid', rest, hnew', hrest', hnext⟩⟩

/-- **What comes out has been passed over without a change,** with at least the files put in that
were put in at the start. -/
theorem exists_last_pass {n : ℕ} {expanded : List Path} {text out : List Char}
    (h : expandPasses store folder n expanded text = .ok out) : ∃ last files,
      expanded ⊆ last ∧ expandOnce store folder last out = .ok (out, files) := by
  refine expandPasses_induct (P := fun expanded _ => ∃ last files, expanded ⊆ last ∧
    expandOnce store folder last out = .ok (out, files)) ?_ ?_ n h
  · intro expanded files hdone
    exact ⟨expanded, files, List.Subset.refl _, hdone⟩
  · rintro expanded text next mid hpass ⟨last, files, hsub, hdone⟩
    exact ⟨last, files, List.Subset.trans (subset_of_pass hpass) hsub, hdone⟩

/-- **Expansion is idempotent:** a text that comes out is expanded to itself, even if directives are
left in it. -/
theorem expandIncludes_idempotent {store : Store} {origin : Origin} {source out : String}
    (h : expandIncludes store origin source = .ok out) :
    expandIncludes store origin out = .ok out := by
  obtain ⟨last, files, hsub, hlast⟩ := exists_last_pass (expandIncludes_eq_ok_iff.1 h)
  obtain ⟨files', hpass⟩ := expandLines_antitone hsub hlast
  rw [expandIncludes_eq_ok_iff, passLimit, expandPasses_succ_of_pass hpass, if_pos rfl]

/-- A store in which a file leads to one that includes itself by its full path. -/
def leftoverStore : Store where
  cwd := ["work"]
  entries := ⟨[(["work"], .directory), (["work", "a"], .file (.text "#include \"/work/a\"\n")),
    (["work", "b"], .file (.text "in b\n#include 'a'\n"))]⟩

theorem expandIncludes_idempotent_leftover :
    (expandIncludes nestedStore ⟨".", some "main"⟩ "first\n#include \"parts/a\"\nlast"
        = .ok "first\nin a\nin b\nlast" ∧
      expandIncludes nestedStore ⟨".", some "main"⟩ "first\nin a\nin b\nlast"
        = .ok "first\nin a\nin b\nlast") ∧
    expandIncludes leftoverStore ⟨".", none⟩ "#include 'b'"
        = .ok "in b\n#include \"/work/a\"" ∧
      expandIncludes leftoverStore ⟨".", none⟩ "in b\n#include \"/work/a\""
        = .ok "in b\n#include \"/work/a\"" := by
  have hnested : expandIncludes nestedStore ⟨".", some "main"⟩
      "first\n#include \"parts/a\"\nlast" = .ok "first\nin a\nin b\nlast" := by decide +kernel
  have hleft : expandIncludes leftoverStore ⟨".", none⟩ "#include 'b'"
      = .ok "in b\n#include \"/work/a\"" := by decide +kernel
  exact ⟨⟨hnested, expandIncludes_idempotent hnested⟩, hleft, expandIncludes_idempotent hleft⟩

end EntityForge
