import EntityForge.Proofs.Include.Passes
import Mathlib.Logic.Relation

/-! # What the passes leave behind

The passes over a text end when one of them changes nothing. A pass without a directive changes
nothing, but so does a pass over a directive whose file starts with that same directive: the line
is replaced by itself. In every other case the text that comes out has no directive, and then the
files that were put in do not include each other in a circle.

* `Store.Includes`, `Reaches`: the files that a file, or a text, leads to.
* `ReplacedByItself`, `KeepsDirective`: the lines on which a pass stands still.
* `ordinary_or_keepsDirective`: a pass that changes nothing.
* `expandPasses_induct`: what is kept by every pass backwards from the last one.
* `acc_of_expandPasses`, `not_mem_expanded_of_reaches`: the files of a text that is expanded to the
  end.
* `expandIncludes_clears_directives`: a text comes out without directives, and cycles are errors,
  except for a line that is replaced by itself. -/

namespace EntityForge

open Text

/-! ### Files that include others -/

/-- The files that a text names in its directives, as seen from a directory. -/
def Names (store : Store) (base : Base) (text : List Char) (file : Path) : Prop :=
  ∃ path ∈ includePaths text, store.follow base path = .ok file

/-- **A file includes another one** by a path that is taken from its own directory. -/
def Store.Includes (store : Store) (file other : Path) : Prop :=
  ∃ contents, store.readAt file = .ok contents ∧
    Names store (.place file.dropLast) contents.toList other

/-- **The files that a text leads to,** directly or through others. -/
def Reaches (store : Store) (base : Base) (text : List Char) (file : Path) : Prop :=
  ∃ first, Names store base text first ∧ Relation.ReflTransGen store.Includes first file

/-! ### Lines that are replaced by themselves -/

/-- Whether `body` is the first line of a text. -/
def StartsWithLine (body text : List Char) : Prop :=
  text = body ∨ ∃ rest, text = body ++ '\n' :: rest

/-- **A directive that is replaced by itself:** what is put in for its file starts with the very
line that the directive is. -/
def ReplacedByItself (store : Store) (folder : String) (body : List Char) : Prop :=
  ∃ indent path file contents, Directive.parse? body = some (.wellFormed indent path) ∧
    store.resolve (joinPath folder path) = .ok file ∧ store.readAt file = .ok contents ∧
    StartsWithLine body
      (dropFinalNewline (rebaseDirectives (Path.text file.dropLast) contents.toList))

/-- **A text whose first directive is replaced by itself.** -/
def KeepsDirective (store : Store) (folder : String) (text : List Char) : Prop :=
  ∃ before line after, splitLines text = before ++ line :: after ∧
    (∀ other ∈ before, Directive.parse? (lineBody other) = none) ∧
    ReplacedByItself store folder (lineBody line)

theorem startsWithLine_of_append {body text out rest : List Char} (h : '\n' ∉ body)
    (heq : text ++ '\n' :: out = body ++ '\n' :: rest) : StartsWithLine body text := by
  rcases List.append_eq_append_iff.1 heq with ⟨more, hbody, hmore⟩ | ⟨more, htext, hmore⟩
  · rcases more with _ | ⟨c, more⟩
    · exact Or.inl (by rw [hbody, List.append_nil])
    · have hc : '\n' = c := (List.cons.inj hmore).1
      exact absurd (hbody ▸ List.mem_append_right text (hc ▸ List.mem_cons_self)) h
  · rcases more with _ | ⟨c, more⟩
    · exact Or.inl (by rw [htext, List.append_nil])
    · have hc : '\n' = c := (List.cons.inj hmore).1
      exact Or.inr ⟨more, hc ▸ htext⟩

variable {store : Store} {folder : String}

theorem KeepsDirective.line {body rest : List Char} (hbody : '\n' ∉ body)
    (hline : Directive.parse? body = none) (h : KeepsDirective store folder rest) :
    KeepsDirective store folder (body ++ '\n' :: rest) := by
  obtain ⟨before, line, after, hsplit, hbefore, hkept⟩ := h
  refine ⟨(body ++ ['\n']) :: before, line, after, ?_, ?_, hkept⟩
  · rw [splitLines_line hbody, hsplit]
    rfl
  · refine List.forall_mem_cons.2 ⟨?_, hbefore⟩
    rw [lineBody_line]
    exact hline

/-- **A pass that changes nothing** has no directive before it, or stands still on the first one. -/
theorem ordinary_or_keepsDirective (text : List Char) : ∀ {offset : ℕ} {expanded files : List Path},
    expandLines store folder offset expanded (splitLines text) = .ok (text, files) →
      (∀ line ∈ splitLines text, Directive.parse? (lineBody line) = none) ∨
        KeepsDirective store folder text := by
  induction text using lines_induct with
  | nil =>
    intro offset expanded files _
    exact Or.inl nofun
  | last body hbody hne =>
    intro offset expanded files h
    rw [splitLines_last hbody hne, expandLines_cons_eq_ok_iff, lineBody_last hbody,
      lineEnd_last hbody] at h
    obtain ⟨new, mid, rest, hnew, hrest, hsame⟩ := h
    cases hrest
    rw [List.append_nil, List.append_nil] at hsame
    rw [splitLines_last hbody hne]
    cases hnew with
    | keep hline =>
      refine Or.inl (List.forall_mem_singleton.2 ?_)
      rw [lineBody_last hbody]
      exact hline
    | expand hline hfile _ hread =>
      refine Or.inr ⟨[], body, [], splitLines_last hbody hne, nofun, ?_⟩
      rw [lineBody_last hbody]
      exact ⟨_, _, _, _, hline, hfile, hread, Or.inl hsame.symm⟩
  | line body rest hbody ih =>
    intro offset expanded files h
    rw [splitLines_line hbody, expandLines_cons_eq_ok_iff, lineBody_line, lineEnd_line] at h
    obtain ⟨new, mid, out, hnew, hrest, hsame⟩ := h
    rw [← List.append_cons] at hsame
    cases hnew with
    | keep hline =>
      obtain rfl : rest = out := List.cons.inj (List.append_cancel_left hsame) |>.2
      rcases ih hrest with hordinary | hkept
      · refine Or.inl ?_
        rw [splitLines_line hbody]
        refine List.forall_mem_cons.2 ⟨?_, hordinary⟩
        rw [lineBody_line]
        exact hline
      · exact Or.inr (hkept.line hbody hline)
    | expand hline hfile _ hread =>
      refine Or.inr ⟨[], body ++ ['\n'], splitLines rest, splitLines_line hbody rest, nofun, ?_⟩
      rw [lineBody_line]
      exact ⟨_, _, _, _, hline, hfile, hread, startsWithLine_of_append hbody hsame.symm⟩

/-! ### From the last pass backwards -/

/-- **Induction over the passes** that lead to a text, from the last one backwards. -/
theorem expandPasses_induct {out : List Char} {P : List Path → List Char → Prop}
    (done : ∀ {expanded files}, expandOnce store folder expanded out = .ok (out, files) →
      P expanded out)
    (pass : ∀ {expanded text next files},
      expandOnce store folder expanded text = .ok (next, files) → P files next → P expanded text)
    (n : ℕ) : ∀ {expanded text}, expandPasses store folder n expanded text = .ok out →
      P expanded text := by
  induction n with
  | zero =>
    intro expanded text h
    cases h
  | succ n ih =>
    intro expanded text h
    rw [expandPasses] at h
    split at h
    · cases h
    · next next files hpass =>
      split_ifs at h with hsame
      · cases h
        exact done (hsame ▸ hpass)
      · exact pass hpass (ih h)

theorem ordinary_or_keepsDirective_of_expandPasses {n : ℕ} {expanded : List Path}
    {text out : List Char} (h : expandPasses store folder n expanded text = .ok out) :
    (∀ line ∈ splitLines out, Directive.parse? (lineBody line) = none) ∨
      KeepsDirective store folder out :=
  expandPasses_induct (P := fun _ _ => _) (ordinary_or_keepsDirective out) (fun _ hnext => hnext)
    n h

theorem includePaths_append (text rest : List Char) :
    includePaths (text ++ '\n' :: rest) = includePaths text ++ includePaths rest := by
  induction text using lines_induct with
  | nil =>
    have h : '\n' ∉ ([] : List Char) := List.not_mem_nil
    exact includePaths_line h rest
  | last body h _ => rw [includePaths_line h, includePaths_last h]
  | line body more h ih =>
    rw [List.append_assoc, List.cons_append, includePaths_line h, ih, includePaths_line h,
      List.append_assoc]

theorem includePaths_eq_nil_of_ordinary {text : List Char}
    (h : ∀ line ∈ splitLines text, Directive.parse? (lineBody line) = none) :
    includePaths text = [] := by
  refine List.filterMap_eq_nil_iff.2 fun line hline => ?_
  unfold includePath?
  rw [h line hline]

/-! ### The files of a pass -/

theorem Replaces.subset {body new : List Char} {expanded mid : List Path}
    (h : Replaces store folder expanded body new mid) : expanded ⊆ mid := by
  cases h with
  | keep => exact List.Subset.refl _
  | expand => exact List.subset_cons_self _ _

theorem subset_of_pass {lines : List (List Char)} {next : List Char} {files : List Path} :
    ∀ {offset : ℕ} {expanded : List Path},
      expandLines store folder offset expanded lines = .ok (next, files) → expanded ⊆ files := by
  induction lines generalizing next with
  | nil =>
    intro offset expanded h
    cases h
    exact List.Subset.refl _
  | cons line lines ih =>
    intro offset expanded h
    obtain ⟨new, mid, rest, hnew, hrest, -⟩ := expandLines_cons_eq_ok_iff.1 h
    exact List.Subset.trans hnew.subset (ih hrest)

/-- A line with a directive names a file that has not been put in before, and what is put in
for it names what the file names. -/
theorem Replaces.exists_file {body new : List Char} {expanded mid : List Path} {path : String}
    (h : Replaces store folder expanded body new mid) (hpath : includePath? body = some path) :
    ∃ file contents, store.resolve (joinPath folder path) = .ok file ∧ file ∉ expanded ∧
      store.readAt file = .ok contents ∧
      new = dropFinalNewline (rebaseDirectives (Path.text file.dropLast) contents.toList) := by
  obtain ⟨indent, hparse⟩ := includePath?_eq_some_iff.1 hpath
  cases h with
  | keep hline =>
    rw [hparse] at hline
    cases hline
  | expand hline hfile hfresh hread =>
    rw [hparse] at hline
    cases hline
    exact ⟨_, _, hfile, hfresh, hread, rfl⟩

/-- **A pass follows every directive,** to a file that has not been put in before. What the file
names, the text after the pass names. -/
theorem exists_file_of_pass (text : List Char) {next : List Char} {files : List Path}
    {path : String} : ∀ {offset : ℕ} {expanded : List Path},
      expandLines store folder offset expanded (splitLines text) = .ok (next, files) →
      path ∈ includePaths text → ∃ file contents,
        store.resolve (joinPath folder path) = .ok file ∧ file ∉ expanded ∧
          store.readAt file = .ok contents ∧
          includePaths (dropFinalNewline
            (rebaseDirectives (Path.text file.dropLast) contents.toList)) ⊆ includePaths next := by
  induction text using lines_induct generalizing next with
  | nil =>
    intro offset expanded _ hpath
    cases hpath
  | last body hbody hne =>
    intro offset expanded h hpath
    rw [splitLines_last hbody hne, expandLines_cons_eq_ok_iff, lineBody_last hbody,
      lineEnd_last hbody] at h
    obtain ⟨new, mid, rest, hnew, hrest, rfl⟩ := h
    cases hrest
    rw [includePaths_last hbody, Option.mem_toList] at hpath
    obtain ⟨file, contents, hfile, hfresh, hread, rfl⟩ := hnew.exists_file hpath
    refine ⟨file, contents, hfile, hfresh, hread, ?_⟩
    rw [List.append_nil, List.append_nil]
    exact List.Subset.refl _
  | line body rest hbody ih =>
    intro offset expanded h hpath
    rw [splitLines_line hbody, expandLines_cons_eq_ok_iff, lineBody_line, lineEnd_line] at h
    obtain ⟨new, mid, out, hnew, hrest, rfl⟩ := h
    rw [← List.append_cons, includePaths_append]
    rw [includePaths_line hbody, List.mem_append, Option.mem_toList] at hpath
    rcases hpath with hpath | hpath
    · obtain ⟨file, contents, hfile, hfresh, hread, rfl⟩ := hnew.exists_file hpath
      exact ⟨file, contents, hfile, hfresh, hread, List.subset_append_left _ _⟩
    · obtain ⟨file, contents, hfile, hfresh, hread, hsub⟩ := ih hrest hpath
      exact ⟨file, contents, hfile, fun hmem => hfresh (hnew.subset hmem), hread,
        List.Subset.trans hsub (List.subset_append_right _ _)⟩

/-! ### The files of a file -/

theorem includePath?_rebaseLine {dir : String} (hdir : IsPlainDirectory dir) {body : List Char}
    (hbody : '\n' ∉ body) (hpath : ∀ path ∈ includePath? body, '"' ∉ path.toList) :
    includePath? (rebaseLine dir body) = (includePath? body).map (joinPath dir) := by
  have hparse := parse?_rebaseLine hdir hbody hpath
  unfold includePath?
  rw [hparse]
  rcases Directive.parse? body with _ | _ | ⟨indent, path⟩ <;> rfl

theorem includePaths_rebaseDirectives {dir : String} (hdir : IsPlainDirectory dir)
    (text : List Char) (hpaths : ∀ path ∈ includePaths text, '"' ∉ path.toList) :
    includePaths (rebaseDirectives dir text) = (includePaths text).map (joinPath dir) := by
  induction text using lines_induct with
  | nil => rfl
  | last body h _ =>
    rw [includePaths_last h] at hpaths ⊢
    rw [rebaseDirectives_last dir h, includePaths_last (newline_not_mem_rebaseLine hdir h),
      includePath?_rebaseLine hdir h fun path hp => hpaths path (Option.mem_toList.2 hp)]
    cases includePath? body <;> rfl
  | line body rest h ih =>
    rw [includePaths_line h] at hpaths ⊢
    have hpath : ∀ path ∈ includePath? body, '"' ∉ path.toList := fun path hp =>
      hpaths path (List.mem_append_left _ (Option.mem_toList.2 hp))
    rw [rebaseDirectives_line dir h, includePaths_line (newline_not_mem_rebaseLine hdir h),
      includePath?_rebaseLine hdir h hpath,
      ih fun path hp => hpaths path (List.mem_append_right _ hp), List.map_append]
    cases includePath? body <;> rfl

section Plain
variable (hstore : store.PlainPaths)
include hstore

/-- **A pass over a text that names a file:** the file has not been put in before, and what it
includes is named by the text after the pass. -/
theorem names_of_pass {text next : List Char} {expanded files : List Path} {file : Path}
    (hpass : expandOnce store folder expanded text = .ok (next, files))
    (hfile : Names store (.folder folder) text file) :
    file ∉ expanded ∧
      ∀ other, store.Includes file other → Names store (.folder folder) next other := by
  obtain ⟨path, hpath, hresolve⟩ := hfile
  obtain ⟨_, contents, hsame, hfresh, hread, hsub⟩ := exists_file_of_pass text hpass hpath
  cases hresolve.symm.trans hsame
  refine ⟨hfresh, ?_⟩
  rintro other ⟨_, hcontents, inner, hinner, hother⟩
  cases hread.symm.trans hcontents
  obtain ⟨names, hnames⟩ := hstore.exists_spells hresolve
  have hdir := hstore.isPlainDirectory hnames
  have hplain := hstore.includes file contents hread
  rw [includePaths_dropFinalNewline, includePaths_rebaseDirectives hdir _ hplain] at hsub
  exact ⟨_, hsub (List.mem_map_of_mem hinner), hnames.dropLast.follow_joinPath_iff.2 hother⟩

/-- **The files of a text that is expanded to the end** do not include each other in a circle. -/
theorem acc_of_expandPasses {n : ℕ} {expanded : List Path} {text out : List Char}
    (h : expandPasses store folder n expanded text = .ok out)
    (hout : ∀ line ∈ splitLines out, Directive.parse? (lineBody line) = none) :
    ∀ file, Names store (.folder folder) text file → Acc (Function.swap store.Includes) file := by
  refine expandPasses_induct (P := fun _ text => ∀ file, Names store (.folder folder) text file →
    Acc (Function.swap store.Includes) file) ?_ ?_ n h
  · rintro _ _ - file ⟨path, hpath, -⟩
    rw [includePaths_eq_nil_of_ordinary hout] at hpath
    cases hpath
  · intro expanded text next files hpass ih file hfile
    obtain ⟨-, hnext⟩ := names_of_pass hstore hpass hfile
    exact Acc.intro file fun other hother => ih other (hnext other hother)

theorem not_mem_expanded_of_reaches {n : ℕ} {expanded : List Path} {text out : List Char}
    (h : expandPasses store folder n expanded text = .ok out)
    (hout : ∀ line ∈ splitLines out, Directive.parse? (lineBody line) = none) :
    ∀ file, Reaches store (.folder folder) text file → file ∉ expanded := by
  refine expandPasses_induct (P := fun expanded text =>
    ∀ file, Reaches store (.folder folder) text file → file ∉ expanded) ?_ ?_ n h
  · rintro _ _ - file ⟨first, ⟨path, hpath, -⟩, -⟩
    rw [includePaths_eq_nil_of_ordinary hout] at hpath
    cases hpath
  · rintro expanded text next files hpass ih file ⟨first, hfirst, hreach⟩
    obtain ⟨hfresh, hnext⟩ := names_of_pass hstore hpass hfirst
    rcases Relation.ReflTransGen.cases_head hreach with rfl | ⟨second, hsecond, hrest⟩
    · exact hfresh
    · have hlater := ih file ⟨second, hnext second hsecond, hrest⟩
      exact fun hmem => hlater (subset_of_pass hpass hmem)

end Plain

theorem not_transGen_self_of_acc {α : Type} {r : α → α → Prop} {a : α}
    (h : Acc (Function.swap r) a) : ¬ Relation.TransGen r a a := by
  have hacc := h.transGen
  clear h
  rw [← Relation.transGen_swap]
  induction hacc with
  | intro x _ ih => exact fun hx => ih x hx hx

theorem acc_of_reflTransGen {a b : Path} (ha : Acc (Function.swap store.Includes) a)
    (h : Relation.ReflTransGen store.Includes a b) : Acc (Function.swap store.Includes) b := by
  induction h with
  | refl => exact ha
  | tail _ hstep ih => exact ih.inv hstep

/-! ### Expansion -/

/-- **Expansion clears all directives and refuses cycles,** unless it stands still on a line that is
replaced by itself. A text comes out without a directive, or its first directive is one for a file
that starts with that very line. A text that leads to its own file, or to a file on a cycle, is
refused, or again such a line is left. -/
theorem expandIncludes_clears_directives (store : Store) (origin : Origin) (source : String) :
    (∀ out, expandIncludes store origin source = .ok out →
      (∀ line ∈ splitLines out.toList, Directive.parse? (lineBody line) = none) ∨
        KeepsDirective store origin.folder out.toList) ∧
    (store.PlainPaths → ∀ file, Reaches store (.folder origin.folder) source.toList file →
      file ∈ origin.expanded store ∨ Relation.TransGen store.Includes file file →
        (∃ e, expandIncludes store origin source = .error e) ∨
        ∃ out, expandIncludes store origin source = .ok out ∧
          KeepsDirective store origin.folder out.toList) := by
  rcases hpasses : expandPasses store origin.folder passLimit (origin.expanded store)
      source.toList with e | text
  · have hfails : expandIncludes store origin source = .error e := by
      rw [expandIncludes, hpasses]
      rfl
    refine ⟨fun out h => ?_, fun _ _ _ _ => Or.inl ⟨e, hfails⟩⟩
    rw [hfails] at h
    cases h
  · have hout : expandIncludes store origin source = .ok (String.ofList text) := by
      rw [expandIncludes, hpasses]
      rfl
    refine ⟨fun out h => ?_, fun hstore file hfile hcycle => ?_⟩
    · rw [hout] at h
      cases h
      rw [String.toList_ofList]
      exact ordinary_or_keepsDirective_of_expandPasses hpasses
    · rcases ordinary_or_keepsDirective_of_expandPasses hpasses with hordinary | hkept
      · exfalso
        rcases hcycle with hroot | hcycle
        · exact not_mem_expanded_of_reaches hstore hpasses hordinary file hfile hroot
        · obtain ⟨first, hfirst, hreach⟩ := hfile
          have hacc := acc_of_expandPasses hstore hpasses hordinary first hfirst
          exact not_transGen_self_of_acc (acc_of_reflTransGen hacc hreach) hcycle
      · refine Or.inr ⟨_, hout, ?_⟩
        rw [String.toList_ofList]
        exact hkept

/-- A store with two files that include each other, one by a relative and one by an absolute
path. -/
def circularStore : Store where
  cwd := ["work"]
  entries := ⟨[(["work"], .directory), (["work", "a"], .file (.text "in a\n#include 'b'\n")),
    (["work", "b"], .file (.text "#include \"/work/a\""))]⟩

theorem expandIncludes_clears_directives_circular :
    (expandIncludes nestedStore ⟨".", some "main"⟩ "first\n#include \"parts/a\"\nlast"
        = .ok "first\nin a\nin b\nlast" ∧
      ((∀ line ∈ splitLines "first\nin a\nin b\nlast".toList,
          Directive.parse? (lineBody line) = none) ∨
        KeepsDirective nestedStore "." "first\nin a\nin b\nlast".toList)) ∧
    circularStore.PlainPaths ∧
      Reaches circularStore (.folder ".") "#include \"a\"".toList ["work", "b"] ∧
      Relation.TransGen circularStore.Includes ["work", "b"] ["work", "b"] ∧
      ((∃ e, expandIncludes circularStore ⟨".", none⟩ "#include \"a\"" = .error e) ∨
        ∃ out, expandIncludes circularStore ⟨".", none⟩ "#include \"a\"" = .ok out ∧
          KeepsDirective circularStore "." out.toList) := by
  have hnested : expandIncludes nestedStore ⟨".", some "main"⟩
      "first\n#include \"parts/a\"\nlast" = .ok "first\nin a\nin b\nlast" := by decide +kernel
  have hplain : circularStore.PlainPaths := Store.plainPaths_of_isPlain (by decide) (by decide)
  have hab : circularStore.Includes ["work", "a"] ["work", "b"] :=
    ⟨_, rfl, "b", by decide, by decide⟩
  have hba : circularStore.Includes ["work", "b"] ["work", "a"] :=
    ⟨_, rfl, "/work/a", by decide, by decide⟩
  have hreach : Reaches circularStore (.folder ".") "#include \"a\"".toList ["work", "b"] :=
    ⟨["work", "a"], ⟨"a", by decide, by decide⟩, .single hab⟩
  have hcycle : Relation.TransGen circularStore.Includes ["work", "b"] ["work", "b"] :=
    .tail (.single hba) hab
  exact ⟨⟨hnested, (expandIncludes_clears_directives nestedStore ⟨".", some "main"⟩ _).1 _ hnested⟩,
    hplain, hreach, hcycle,
    (expandIncludes_clears_directives circularStore ⟨".", none⟩ _).2 hplain _ hreach
      (Or.inr hcycle)⟩

/-- A store with a file that includes itself by its full path. -/
def selfIncludingStore : Store where
  cwd := ["work"]
  entries := ⟨[(["work"], .directory), (["work", "a"], .file (.text "#include \"/work/a\"\n"))]⟩

/-- A store with a cycle through a directory whose name ends in a quote and a blank. Written between
double quotes, the path to it names another file. -/
def quotedStore : Store where
  cwd := ["work"]
  entries := ⟨[(["work"], .directory), (["work", "a"], .file (.text "#include 'd\" //b'\n")),
    (["work", "d"], .file (.text "in d\n")), (["work", "d\" "], .directory),
    (["work", "d\" ", "b"], .file (.text "#include '../a'\n"))]⟩

/-- **Not every cycle is refused:** a directive for a file that starts with the same directive is
left in place, and a cycle is not noticed where a name holds a quote. -/
theorem expandIncludes_accepts_cycle :
    (selfIncludingStore.Includes ["work", "a"] ["work", "a"] ∧
      expandIncludes selfIncludingStore ⟨"/work", none⟩ "#include \"/work/a\""
        = .ok "#include \"/work/a\"" ∧
      Directive.parse? (lineBody "#include \"/work/a\"".toList)
        = some (.wellFormed [] "/work/a")) ∧
    Reaches quotedStore (.folder "/work") "#include \"a\"".toList ["work", "a"] ∧
      Relation.TransGen quotedStore.Includes ["work", "a"] ["work", "a"] ∧
      expandIncludes quotedStore ⟨"/work", none⟩ "#include \"a\"" = .ok "in d" := by
  have hself : selfIncludingStore.Includes ["work", "a"] ["work", "a"] :=
    ⟨_, rfl, "/work/a", by decide, by decide⟩
  have hab : quotedStore.Includes ["work", "a"] ["work", "d\" ", "b"] :=
    ⟨_, rfl, "d\" //b", by decide, by decide⟩
  have hba : quotedStore.Includes ["work", "d\" ", "b"] ["work", "a"] :=
    ⟨_, rfl, "../a", by decide, by decide⟩
  exact ⟨⟨hself, by decide +kernel, by decide⟩, ⟨_, ⟨"a", by decide, by decide⟩, .refl⟩,
    .tail (.single hab) hba, by decide +kernel⟩

end EntityForge
