import EntityForge.Proofs.Include.Inlining
import EntityForge.Proofs.Table.LastWins

/-! # Passes reach what recursion says

Includes are expanded pass by pass over a whole text, while their meaning is a recursion on files. A
pass takes the outermost layer off the recursion: what the text stands for stays the same, its
nesting becomes one less, and the files of the layer move from those that are still to be put in to
those that have been. So the passes end with what the text stands for.

* `Store.PlainPaths`: names that survive being written into a directive.
* `Replaces`, `expandLines_cons_eq_ok_iff`: what a pass does to a line.
* `exists_pass`, `inlines_of_pass`: a pass keeps what a text stands for, forwards and backwards.
* `expandPasses_of_inlines`, `inlines_of_expandPasses`: so do all passes together.
* `expandIncludes_eq_inlining`: expansion is recursive inlining. -/

namespace EntityForge

open Text

/-! ### Names that can be written into a directive -/

/-- A name that is text, without double quotes and line feeds. -/
def Octets.IsPlainName : Octets → Prop
  | .text s => '"' ∉ s.toList ∧ '\n' ∉ s.toList
  | .binary _ => False

instance : (name : Octets) → Decidable name.IsPlainName
  | .text _ => inferInstanceAs (Decidable (_ ∧ _))
  | .binary _ => .isFalse id

/-- **Every directory name is text** without double quotes and line feeds, no include path in a file
holds a double quote, and the current directory, if it is there, is where its text leads. -/
structure Store.PlainPaths (store : Store) : Prop where
  current : store.find? store.cwd = some .directory → store.resolve store.cwd.text = .ok store.cwd
  directories : ∀ p, store.find? p = some .directory → ∀ name ∈ p, name.IsPlainName
  includes : ∀ p contents, store.readAt p = .ok contents →
    ∀ path ∈ includePaths contents.toList, '"' ∉ path.toList

variable {store : Store}

/-- Whether a place and what is found there are plain. -/
def Entry.isPlain (p : Path) : Entry → Bool
  | .directory => p.all fun name => decide name.IsPlainName
  | .file (.text contents) => (includePaths contents.toList).all fun path => '"' ∉ path.toList
  | .file (.binary _) => true

theorem Store.plainPaths_of_isPlain (hcwd : store.resolve store.cwd.text = .ok store.cwd)
    (h : ∀ e ∈ store.entries.pairs, e.2.isPlain e.1 = true) : store.PlainPaths where
  current _ := hcwd
  directories p hp name hname := by
    unfold Store.find? at hp
    split_ifs at hp with hroot
    · rw [hroot] at hname
      cases hname
    · have hplain := h _ (Table.mem_of_findIn hp)
      exact of_decide_eq_true (List.all_eq_true.1 hplain name hname)
  includes p contents hp path hpath := by
    unfold Store.readAt at hp
    split at hp
    · next text hfind =>
      cases hp
      unfold Store.find? at hfind
      split_ifs at hfind
      · cases hfind
      · have hplain := h _ (Table.mem_of_findIn hfind)
        exact of_decide_eq_true (List.all_eq_true.1 hplain path hpath)
    all_goals cases hp

section PlainPaths
variable (hstore : store.PlainPaths)
include hstore

/-- **Everything that is found can be spelled.** -/
theorem Store.PlainPaths.exists_spells {path : String} {file : Path}
    (h : store.resolve path = .ok file) : ∃ names, store.Spells names file := by
  obtain ⟨-, -, hwalk⟩ := Store.resolve_eq_ok_iff.1 h
  refine Store.exists_spells_of_resolve ?_ h
  unfold Store.origin at hwalk ⊢
  split_ifs at hwalk ⊢
  · exact ⟨[], store.spells_nil⟩
  · have hcwd := hstore.current (Store.directory_of_walk_segments hwalk)
    refine Store.exists_spells_of_resolve ⟨[], ?_⟩ hcwd
    rw [Store.origin, if_pos (isAbsolute_text store.cwd)]
    exact store.spells_nil

theorem Store.PlainPaths.not_mem_text {dir : Path} (h : store.find? dir = some .directory) :
    '"' ∉ dir.text.toList ∧ '\n' ∉ dir.text.toList := by
  have hplain : ∀ name ∈ dir, '"' ∉ name.shown.toList ∧ '\n' ∉ name.shown.toList := by
    intro name hname
    have hname := hstore.directories dir h name hname
    cases name with
    | text s => exact hname
    | binary bytes => exact hname.elim
  constructor
  · intro hmem
    rcases mem_text hmem with h | ⟨name, hname, h⟩
    · cases h
    · exact (hplain name hname).1 h
  · intro hmem
    rcases mem_text hmem with h | ⟨name, hname, h⟩
    · cases h
    · exact (hplain name hname).2 h

/-- **The directory of a file that is found** can be written into directives. -/
theorem Store.PlainPaths.isPlainDirectory {names : List String} {file : Path}
    (h : store.Spells names file) : IsPlainDirectory (Path.text file.dropLast) := by
  obtain ⟨hquote, hnewline⟩ := hstore.not_mem_text h.directory_above
  exact ⟨isAbsolute_text file.dropLast, hquote, hnewline⟩

end PlainPaths

/-! ### One pass -/

/-- What a pass makes of a line without its line feed, when the files in `expanded` have been put in
before, and the files that have been put in after. -/
inductive Replaces (store : Store) (folder : String) (expanded : List Path) (body : List Char) :
    List Char → List Path → Prop
  | keep (hline : Directive.parse? body = none) : Replaces store folder expanded body body expanded
  | expand {indent : List Char} {path contents : String} {file : Path}
      (hline : Directive.parse? body = some (.wellFormed indent path))
      (hfile : store.resolve (joinPath folder path) = .ok file) (hnew : file ∉ expanded)
      (hread : store.readAt file = .ok contents) :
      Replaces store folder expanded body
        (dropFinalNewline (rebaseDirectives (Path.text file.dropLast) contents.toList))
        (file :: expanded)

variable {folder : String}

theorem expandFile_eq_ok_iff {expanded files : List Path} {path : String} {text : List Char} :
    expandFile store folder expanded path = .ok (text, files) ↔ ∃ file contents,
      store.resolve (joinPath folder path) = .ok file ∧ file ∉ expanded ∧
        store.readAt file = .ok contents ∧
        text = rebaseDirectives (Path.text file.dropLast) contents.toList ∧
        files = file :: expanded := by
  unfold expandFile
  constructor
  · intro h
    split at h
    · cases h
    · next file hfile =>
      split_ifs at h with hnew
      split at h
      · cases h
      · next contents hread =>
        cases h
        exact ⟨file, contents, hfile, by simpa using hnew, hread, rfl, rfl⟩
  · rintro ⟨file, contents, hfile, hnew, hread, rfl, rfl⟩
    have hcontains : ¬ expanded.contains file = true := by simpa using hnew
    rw [hfile]
    dsimp only
    rw [if_neg hcontains, hread]

/-- **What a pass does to the first line.** -/
theorem expandLines_cons_eq_ok_iff {offset : ℕ} {expanded files : List Path} {line : List Char}
    {lines : List (List Char)} {next : List Char} :
    expandLines store folder offset expanded (line :: lines) = .ok (next, files) ↔
      ∃ new mid rest, Replaces store folder expanded (lineBody line) new mid ∧
        expandLines store folder (offset + byteLength line) mid lines = .ok (rest, files) ∧
        next = new ++ lineEnd line ++ rest := by
  rw [expandLines]
  constructor
  · intro h
    split at h
    · next hline =>
      split at h
      · next out files' hrest =>
        cases h
        exact ⟨_, _, out, .keep hline, hrest, by rw [lineBody_append_lineEnd]⟩
      · cases h
    · cases h
    · next indent path hline =>
      split at h
      · cases h
      · next contents mid hfile =>
        obtain ⟨file, text, hresolve, hnew, hread, rfl, rfl⟩ := expandFile_eq_ok_iff.1 hfile
        split at h
        · next out files' hrest =>
          cases h
          exact ⟨_, _, out, .expand hline hresolve hnew hread, hrest, rfl⟩
        · cases h
  · rintro ⟨new, mid, rest, hnew, hrest, rfl⟩
    cases hnew with
    | keep hline =>
      rw [hline]
      dsimp only
      rw [hrest, lineBody_append_lineEnd]
    | expand hline hfile hfresh hread =>
      rw [hline]
      dsimp only
      rw [expandFile_eq_ok_iff.2 ⟨_, _, hfile, hfresh, hread, rfl, rfl⟩]
      dsimp only
      rw [hrest]

theorem nodup_of_expandLines {lines : List (List Char)} {next : List Char} {files : List Path} :
    ∀ {offset : ℕ} {expanded : List Path}, expanded.Nodup →
      expandLines store folder offset expanded lines = .ok (next, files) → files.Nodup := by
  induction lines generalizing next with
  | nil =>
    intro offset expanded hnodup h
    cases h
    exact hnodup
  | cons line lines ih =>
    intro offset expanded hnodup h
    obtain ⟨new, mid, rest, hnew, hrest, -⟩ := expandLines_cons_eq_ok_iff.1 h
    refine ih ?_ hrest
    cases hnew with
    | keep => exact hnodup
    | expand _ _ hfresh _ => exact List.nodup_cons.2 ⟨hfresh, hnodup⟩

theorem perm_layers {as bs as₁ as₂ bs₁ bs₂ : List Path} (ha : as.Perm (as₁ ++ as₂))
    (hb : bs.Perm (bs₁ ++ bs₂)) : (as ++ bs).Perm ((as₁ ++ bs₁) ++ (as₂ ++ bs₂)) := by
  calc (as ++ bs).Perm ((as₁ ++ as₂) ++ (bs₁ ++ bs₂)) := ha.append hb
    _ = as₁ ++ (as₂ ++ (bs₁ ++ bs₂)) := List.append_assoc ..
    List.Perm _ (as₁ ++ (bs₁ ++ (as₂ ++ bs₂))) := (List.perm_append_comm_assoc ..).append_left as₁
    _ = (as₁ ++ bs₁) ++ (as₂ ++ bs₂) := (List.append_assoc ..).symm

theorem perm_reverse_append (level expanded : List Path) :
    (level.reverse ++ expanded).Perm (expanded ++ level) :=
  List.perm_append_comm.trans ((List.reverse_perm level).append_left expanded)

theorem perm_take_layer {files level inner : List Path} (expanded : List Path)
    (h : files.Perm (level ++ inner)) :
    (expanded ++ files).Perm ((level.reverse ++ expanded) ++ inner) := by
  calc (expanded ++ files).Perm (expanded ++ (level ++ inner)) := h.append_left expanded
    _ = (expanded ++ level) ++ inner := (List.append_assoc ..).symm
    List.Perm _ ((level.reverse ++ expanded) ++ inner) :=
      (perm_reverse_append level expanded).symm.append_right inner

section Pass
variable (hstore : store.PlainPaths)
include hstore

theorem inlines_contents_iff {path : String} {file : Path} {contents : String} {r : Inlined}
    (hfile : store.resolve path = .ok file) (hread : store.readAt file = .ok contents) :
    Inlines store (.folder folder) (splitLines (dropFinalNewline
        (rebaseDirectives (Path.text file.dropLast) contents.toList))) r ↔
      Inlines store (.place file.dropLast) (splitLines (dropFinalNewline contents.toList)) r := by
  obtain ⟨names, hnames⟩ := hstore.exists_spells hfile
  have hdir := hstore.isPlainDirectory hnames
  rw [dropFinalNewline_rebaseDirectives hdir]
  refine inlines_rebase_iff hdir hnames.dropLast ?_
  rw [includePaths_dropFinalNewline]
  exact hstore.includes file contents hread

theorem Stands.exists_replaces {body : List Char} {expanded : List Path} {r : Inlined}
    (h : Stands store (.folder folder) body r) (hbody : '\n' ∉ body)
    (hnodup : (expanded ++ r.files).Nodup) :
    ∃ new level inner, Replaces store folder expanded body new (level.reverse ++ expanded) ∧
      Inlines store (.folder folder) (splitLines new) ⟨r.text, inner, r.depth - 1⟩ ∧
      r.files = level ++ inner := by
  cases h with
  | keep hline =>
    exact ⟨body, [], [], .keep hline, (inlines_last_iff hbody).2 (.keep hline), rfl⟩
  | @expand _ _ _ file inner hline hfile hread hinner =>
    have hfresh : file ∉ expanded := fun hmem =>
      (List.nodup_append.1 hnodup).2.2 file hmem file List.mem_cons_self rfl
    exact ⟨_, [file], inner.files, .expand hline hfile hfresh hread,
      (inlines_contents_iff hstore hfile hread).2 hinner, rfl⟩

theorem Replaces.exists_stands {body new : List Char} {expanded mid : List Path} {r : Inlined}
    (h : Replaces store folder expanded body new mid) (hbody : '\n' ∉ body)
    (hr : Inlines store (.folder folder) (splitLines new) r) :
    ∃ level depth, mid = level.reverse ++ expanded ∧
      Stands store (.folder folder) body ⟨r.text, level ++ r.files, depth⟩ := by
  cases h with
  | keep hline => exact ⟨[], r.depth, rfl, (inlines_last_iff hbody).1 hr⟩
  | @expand _ _ _ file hline hfile _ hread =>
    exact ⟨[file], r.depth + 1, rfl,
      .expand hline hfile hread ((inlines_contents_iff hstore hfile hread).1 hr)⟩

/-- **A pass succeeds on a text that stands for something,** as long as no file repeats. It keeps
what the text stands for and takes off the outermost layer of files. -/
theorem exists_pass (text : List Char) {r : Inlined} :
    ∀ {offset : ℕ} {expanded : List Path}, Inlines store (.folder folder) (splitLines text) r →
      (expanded ++ r.files).Nodup → ∃ next level inner,
        expandLines store folder offset expanded (splitLines text)
            = .ok (next, level.reverse ++ expanded) ∧
          Inlines store (.folder folder) (splitLines next) ⟨r.text, inner, r.depth - 1⟩ ∧
          r.files.Perm (level ++ inner) := by
  induction text using lines_induct generalizing r with
  | nil =>
    intro offset expanded h _
    obtain rfl := inlines_nil_iff.1 h
    exact ⟨[], [], [], rfl, .nil (.folder folder), .refl _⟩
  | last body hbody hne =>
    intro offset expanded h hnodup
    obtain ⟨new, level, inner, hnew, hinner, hfiles⟩ :=
      ((inlines_last_iff hbody).1 h).exists_replaces hstore hbody hnodup
    refine ⟨new, level, inner, ?_, hinner, hfiles ▸ .refl _⟩
    rw [splitLines_last hbody hne, expandLines_cons_eq_ok_iff, lineBody_last hbody,
      lineEnd_last hbody]
    exact ⟨new, _, [], hnew, rfl, by simp⟩
  | line body rest hbody ih =>
    intro offset expanded h hnodup
    obtain ⟨a, b, ha, hb, rfl⟩ := (inlines_line_iff hbody).1 h
    rw [Inlined.join, ← List.append_assoc] at hnodup
    obtain ⟨new, level₁, inner₁, hnew, hinner₁, hfiles₁⟩ :=
      ha.exists_replaces hstore hbody (List.nodup_append.1 hnodup).1
    -- The files of this line have been put in when the rest is reached.
    have hmid : ((level₁.reverse ++ expanded) ++ b.files).Nodup := by
      rw [((perm_reverse_append level₁ expanded).append_right b.files).nodup_iff]
      refine hnodup.sublist (.append_right (.append_left ?_ expanded) b.files)
      rw [hfiles₁]
      exact List.sublist_append_left level₁ inner₁
    obtain ⟨next, level₂, inner₂, hnext, hinner₂, hfiles₂⟩ := ih hb hmid
    refine ⟨new ++ '\n' :: next, level₁ ++ level₂, inner₁ ++ inner₂, ?_, ?_, ?_⟩
    · rw [splitLines_line hbody, expandLines_cons_eq_ok_iff, lineBody_line, lineEnd_line,
        List.reverse_append, List.append_assoc]
      exact ⟨new, _, next, hnew, hnext, List.append_cons ..⟩
    · refine inlines_append_iff.2 ⟨_, _, hinner₁, hinner₂, ?_⟩
      simp only [Inlined.join, Inlined.mk.injEq, true_and]
      omega
    · exact perm_layers (hfiles₁ ▸ .refl _) hfiles₂

/-- **A text that a pass leads to something** stands for the same, with the files of the pass put in
as well. -/
theorem inlines_of_pass (text : List Char) {next : List Char} {files : List Path} {r : Inlined} :
    ∀ {offset : ℕ} {expanded : List Path},
      expandLines store folder offset expanded (splitLines text) = .ok (next, files) →
      Inlines store (.folder folder) (splitLines next) r → ∃ level before,
        files = level.reverse ++ expanded ∧
          Inlines store (.folder folder) (splitLines text) before ∧
          before.text = r.text ∧ before.files.Perm (level ++ r.files) := by
  induction text using lines_induct generalizing next r with
  | nil =>
    intro offset expanded h hr
    cases h
    exact ⟨[], r, rfl, hr, rfl, .refl _⟩
  | last body hbody hne =>
    intro offset expanded h hr
    rw [splitLines_last hbody hne, expandLines_cons_eq_ok_iff, lineBody_last hbody,
      lineEnd_last hbody] at h
    obtain ⟨new, mid, rest, hnew, hrest, rfl⟩ := h
    cases hrest
    rw [List.append_nil, List.append_nil] at hr
    obtain ⟨level, depth, rfl, hstands⟩ := hnew.exists_stands hstore hbody hr
    exact ⟨level, _, rfl, (inlines_last_iff hbody).2 hstands, rfl, .refl _⟩
  | line body rest hbody ih =>
    intro offset expanded h hr
    rw [splitLines_line hbody, expandLines_cons_eq_ok_iff, lineBody_line, lineEnd_line] at h
    obtain ⟨new, mid, out, hnew, hrest, rfl⟩ := h
    rw [← List.append_cons] at hr
    obtain ⟨a, b, ha, hb, rfl⟩ := inlines_append_iff.1 hr
    obtain ⟨level₁, depth, rfl, hstands⟩ := hnew.exists_stands hstore hbody ha
    obtain ⟨level₂, before, rfl, hbefore, htext, hfiles⟩ := ih hrest hb
    refine ⟨level₁ ++ level₂, _, ?_, (inlines_line_iff hbody).2 ⟨_, before, hstands, hbefore, rfl⟩,
      ?_, perm_layers (.refl _) hfiles⟩
    · rw [List.reverse_append, List.append_assoc]
    · simp only [Inlined.join, htext]

/-! ### All passes -/

/-- **Passes reach what a text stands for,** if no file repeats and there are more passes than
layers. -/
theorem expandPasses_of_inlines (n : ℕ) : ∀ {expanded : List Path} {text : List Char}
    {r : Inlined}, Inlines store (.folder folder) (splitLines text) r →
      (expanded ++ r.files).Nodup → r.depth < n →
        expandPasses store folder n expanded text = .ok r.text := by
  induction n with
  | zero =>
    intro expanded text r _ _ hdepth
    exact absurd hdepth (Nat.not_lt_zero _)
  | succ n ih =>
    intro expanded text r h hnodup hdepth
    obtain ⟨next, level, inner, hpass, hnext, hfiles⟩ := exists_pass hstore text h hnodup
    rw [expandPasses, expandOnce, hpass]
    dsimp only
    split_ifs with hsame
    · -- A text that a pass does not change has no layer that could be taken off.
      subst hsame
      have hzero : r.depth = r.depth - 1 := congrArg Inlined.depth (h.unique hnext)
      rw [h.text_eq_of_depth_eq_zero (by omega), flatten_splitLines]
    · have hchanged : r.depth ≠ 0 := by
        intro hzero
        have htext := h.text_eq_of_depth_eq_zero hzero
        have hnexttext := hnext.text_eq_of_depth_eq_zero (by simp only; omega)
        rw [flatten_splitLines] at htext hnexttext
        exact hsame (hnexttext.symm.trans htext)
      have hfresh := (perm_take_layer expanded hfiles).nodup_iff.1 hnodup
      have hless : r.depth - 1 < n := by omega
      exact ih (r := ⟨r.text, inner, r.depth - 1⟩) hnext hfresh hless

/-- **What passes reach is what the text stands for,** if no directive is left in it. -/
theorem inlines_of_expandPasses (n : ℕ) : ∀ {expanded : List Path} {text out : List Char},
    expandPasses store folder n expanded text = .ok out →
      (∀ line ∈ splitLines out, Directive.parse? (lineBody line) = none) → expanded.Nodup →
      ∃ r, Inlines store (.folder folder) (splitLines text) r ∧ r.text = out ∧
        (expanded ++ r.files).Nodup := by
  induction n with
  | zero =>
    intro expanded text out h
    cases h
  | succ n ih =>
    intro expanded text out h hout hnodup
    rw [expandPasses, expandOnce] at h
    split at h
    · cases h
    · next next files hpass =>
      split_ifs at h with hsame
      · cases h
        refine ⟨_, inlines_of_ordinary hout, flatten_splitLines text, ?_⟩
        rw [List.append_nil]
        exact hnodup
      · obtain ⟨r, hr, rfl, hfiles⟩ := ih h hout (nodup_of_expandLines hnodup hpass)
        obtain ⟨level, before, rfl, hbefore, htext, hperm⟩ := inlines_of_pass hstore text hpass hr
        have hall := (perm_take_layer expanded hperm).nodup_iff.2 hfiles
        exact ⟨before, hbefore, htext, hall⟩

end Pass

theorem Origin.nodup_expanded (origin : Origin) (store : Store) :
    (origin.expanded store).Nodup := by
  unfold Origin.expanded
  split
  · exact List.nodup_nil
  · next path _ =>
    cases (store.resolve path).toOption <;> simp

/-- **Include expansion is recursive inlining.** In a store of plain names, a text whose directives
can all be followed, to files that are all different from each other and from the file of the text,
nested at most 63 deep, is expanded to what it stands for. Conversely, a text that is expanded to
one without directives stands for that one, and its files are all different. -/
theorem expandIncludes_eq_inlining {store : Store} (hstore : store.PlainPaths) (origin : Origin)
    (source : String) :
    (∀ r, Inlines store (.folder origin.folder) (splitLines source.toList) r →
      (origin.expanded store ++ r.files).Nodup → r.depth ≤ 63 →
        expandIncludes store origin source = .ok (String.ofList r.text)) ∧
    ∀ out, expandIncludes store origin source = .ok out →
      (∀ line ∈ splitLines out.toList, Directive.parse? (lineBody line) = none) →
        ∃ r, Inlines store (.folder origin.folder) (splitLines source.toList) r ∧
          (origin.expanded store ++ r.files).Nodup ∧ out = String.ofList r.text := by
  constructor
  · intro r hr hnodup hdepth
    unfold expandIncludes
    rw [expandPasses_of_inlines hstore passLimit hr hnodup (Nat.lt_succ_of_le hdepth)]
    rfl
  · intro out h hout
    unfold expandIncludes at h
    rcases hpasses : expandPasses store origin.folder passLimit (origin.expanded store)
        source.toList with e | text
    · rw [hpasses] at h
      cases h
    · rw [hpasses] at h
      cases h
      rw [String.toList_ofList] at hout
      obtain ⟨r, hr, rfl, hnodup⟩ := inlines_of_expandPasses hstore passLimit hpasses hout
        (origin.nodup_expanded store)
      exact ⟨r, hr, hnodup, rfl⟩

/-- A store with a file that includes another one beside it. -/
def nestedStore : Store where
  cwd := ["work"]
  entries := ⟨[(["work"], .directory), (["work", "main"], .file (.text "")),
    (["work", "parts"], .directory),
    (["work", "parts", "a"], .file (.text "in a\n  #include 'b' // nested\r\n")),
    (["work", "parts", "b"], .file (.text "in b"))]⟩

theorem expandIncludes_eq_inlining_nested :
    nestedStore.PlainPaths ∧
    (Inlines nestedStore (.folder ".") (splitLines "first\n#include \"parts/a\"\nlast".toList)
        ⟨"first\nin a\nin b\nlast".toList, [["work", "parts", "a"], ["work", "parts", "b"]], 2⟩ ∧
      expandIncludes nestedStore ⟨".", some "main"⟩ "first\n#include \"parts/a\"\nlast"
        = .ok "first\nin a\nin b\nlast") ∧
    (∀ line ∈ splitLines "first\nin a\nin b\nlast".toList,
        Directive.parse? (lineBody line) = none) ∧
      ∃ r, Inlines nestedStore (.folder ".")
          (splitLines "first\n#include \"parts/a\"\nlast".toList) r ∧
        (Origin.expanded ⟨".", some "main"⟩ nestedStore ++ r.files).Nodup ∧
        "first\nin a\nin b\nlast" = String.ofList r.text := by
  have hplain : nestedStore.PlainPaths := Store.plainPaths_of_isPlain (by decide) (by decide)
  have hb : Inlines nestedStore (.place ["work", "parts"])
      (splitLines (dropFinalNewline "in b".toList)) ⟨"in b".toList, [], 0⟩ :=
    inlines_of_ordinary (by decide)
  have ha : Inlines nestedStore (.place ["work", "parts"])
      (splitLines (dropFinalNewline "in a\n  #include 'b' // nested\r\n".toList))
      ⟨"in a\nin b".toList, [["work", "parts", "b"]], 1⟩ := by
    have hlines : splitLines (dropFinalNewline "in a\n  #include 'b' // nested\r\n".toList)
        = ["in a\n".toList, "  #include 'b' // nested\r".toList] := by decide
    have hkept : Directive.parse? (lineBody "in a\n".toList) = none := by decide
    have hline : Directive.parse? (lineBody "  #include 'b' // nested\r".toList)
        = some (.wellFormed [' ', ' '] "b") := by decide
    have hfile : nestedStore.follow (.place ["work", "parts"]) "b"
        = .ok ["work", "parts", "b"] := by decide
    rw [hlines]
    exact .keep hkept (.expand hline hfile rfl hb (.nil _))
  have hsource : Inlines nestedStore (.folder ".")
      (splitLines "first\n#include \"parts/a\"\nlast".toList)
      ⟨"first\nin a\nin b\nlast".toList, [["work", "parts", "a"], ["work", "parts", "b"]], 2⟩ := by
    have hlines : splitLines "first\n#include \"parts/a\"\nlast".toList
        = ["first\n".toList, "#include \"parts/a\"\n".toList, "last".toList] := by decide
    have hfirst : Directive.parse? (lineBody "first\n".toList) = none := by decide
    have hlast : Directive.parse? (lineBody "last".toList) = none := by decide
    have hline : Directive.parse? (lineBody "#include \"parts/a\"\n".toList)
        = some (.wellFormed [] "parts/a") := by decide
    have hfile : nestedStore.follow (.folder ".") "parts/a" = .ok ["work", "parts", "a"] := by
      decide
    rw [hlines]
    exact .keep hfirst (.expand hline hfile rfl ha (.keep hlast (.nil _)))
  have hout := (expandIncludes_eq_inlining hplain ⟨".", some "main"⟩ _).1 _ hsource (by decide)
    (by decide)
  have hordinary : ∀ line ∈ splitLines "first\nin a\nin b\nlast".toList,
      Directive.parse? (lineBody line) = none := by decide
  exact ⟨hplain, ⟨hsource, hout⟩, hordinary,
    (expandIncludes_eq_inlining hplain ⟨".", some "main"⟩ _).2 _ hout hordinary⟩

/-- A store whose current directory has a name that is not text. -/
def unreadableStore : Store where
  cwd := [.binary [0xff]]
  entries := ⟨[([.binary [0xff]], .directory),
    ([.binary [0xff], "a"], .file (.text "#include 'b'\n")),
    ([.binary [0xff], "b"], .file (.text "in b\n"))]⟩

/-- A store in which the path of a file also leads to a file below its own directory. -/
def overlaidStore : Store where
  cwd := ["work"]
  entries := ⟨[(["work"], .directory), (["work", "a"], .file (.text "outer")),
    (["work", "work"], .directory), (["work", "work", "a"], .file (.text "inner"))]⟩

/-- **Expansion is not always the inlining of files below a directory:** a directory whose name is
not text is lost between two passes, and an absolute path is not taken from a directory. -/
theorem expandIncludes_leaves_inlining :
    (Inlines unreadableStore (.folder ".") (splitLines "#include \"a\"".toList)
        ⟨"in b".toList, [[.binary [0xff], "a"], [.binary [0xff], "b"]], 2⟩ ∧
      ∃ e, expandIncludes unreadableStore ⟨".", none⟩ "#include \"a\"" = .error e) ∧
    overlaidStore.readText ("/work" ++ "/" ++ "/work/a") = .ok "inner" ∧
      expandIncludes overlaidStore ⟨"/work", none⟩ "#include \"/work/a\"" = .ok "outer" := by
  have hb : Inlines unreadableStore (.place [.binary [0xff]])
      (splitLines (dropFinalNewline "in b\n".toList)) ⟨"in b".toList, [], 0⟩ :=
    inlines_of_ordinary (by decide)
  have ha : Inlines unreadableStore (.place [.binary [0xff]])
      (splitLines (dropFinalNewline "#include 'b'\n".toList))
      ⟨"in b".toList, [[.binary [0xff], "b"]], 1⟩ := by
    have hlines : splitLines (dropFinalNewline "#include 'b'\n".toList)
        = ["#include 'b'".toList] := by decide
    have hline : Directive.parse? (lineBody "#include 'b'".toList)
        = some (.wellFormed [] "b") := by decide
    have hfile : unreadableStore.follow (.place [.binary [0xff]]) "b"
        = .ok [.binary [0xff], "b"] := by decide
    rw [hlines]
    exact .expand hline hfile rfl hb (.nil _)
  have hsource : Inlines unreadableStore (.folder ".") (splitLines "#include \"a\"".toList)
      ⟨"in b".toList, [[.binary [0xff], "a"], [.binary [0xff], "b"]], 2⟩ := by
    have hlines : splitLines "#include \"a\"".toList = ["#include \"a\"".toList] := by decide
    have hline : Directive.parse? (lineBody "#include \"a\"".toList)
        = some (.wellFormed [] "a") := by decide
    have hfile : unreadableStore.follow (.folder ".") "a" = .ok [.binary [0xff], "a"] := by decide
    rw [hlines]
    exact .expand hline hfile rfl ha (.nil _)
  have hlost : (expandIncludes unreadableStore ⟨".", none⟩ "#include \"a\"").toOption = none := by
    decide +kernel
  refine ⟨⟨hsource, ?_⟩, by decide +kernel, by decide +kernel⟩
  rcases hout : expandIncludes unreadableStore ⟨".", none⟩ "#include \"a\"" with e | out
  · exact ⟨e, rfl⟩
  · rw [hout] at hlost
    cases hlost

end EntityForge
