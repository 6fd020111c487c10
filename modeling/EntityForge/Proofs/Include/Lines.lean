import EntityForge.Include
import EntityForge.Proofs.Store.Paths
import Mathlib.Data.List.TakeWhile

/-! # Texts line by line

A text is empty, or one line without a line feed, or a line with its line feed and a further text.
What is done to a text line by line is described by what it does in these three cases.

* `Text.lines_induct`: the induction that follows.
* `splitLines_line`, `splitLines_last`: the lines in the last two cases.
* `rebaseDirectives_line`, `rebaseDirectives_last`: so for the text as seen from another directory.
* `dropFinalNewline_rebaseDirectives`: a rebased text ends in a line feed where the text did. -/

namespace EntityForge

namespace Text

theorem splitLines_line {body : List Char} (h : '\n' ∉ body) (rest : List Char) :
    splitLines (body ++ '\n' :: rest) = (body ++ ['\n']) :: splitLines rest := by
  induction body with
  | nil => rfl
  | cons c body ih =>
    have hc : c ≠ '\n' := fun hc => h (hc ▸ List.mem_cons_self)
    have hbody := ih fun hmem => h (List.mem_cons_of_mem c hmem)
    rw [List.cons_append, splitLines, if_neg hc, hbody]
    rfl

theorem splitLines_last {body : List Char} (h : '\n' ∉ body) (hne : body ≠ []) :
    splitLines body = [body] := by
  induction body with
  | nil => exact absurd rfl hne
  | cons c body ih =>
    have hc : c ≠ '\n' := fun hc => h (hc ▸ List.mem_cons_self)
    rw [splitLines, if_neg hc]
    rcases body with _ | ⟨d, body⟩
    · rfl
    · rw [ih (fun hmem => h (List.mem_cons_of_mem c hmem)) (List.cons_ne_nil d body)]

theorem lineBody_line (body : List Char) : lineBody (body ++ ['\n']) = body := by
  simp [lineBody]

theorem lineEnd_line (body : List Char) : lineEnd (body ++ ['\n']) = ['\n'] := by
  simp [lineEnd]

theorem getLast?_ne_newline {body : List Char} (h : '\n' ∉ body) : body.getLast? ≠ some '\n' :=
  fun hlast => h (List.mem_of_getLast? hlast)

theorem lineBody_last {body : List Char} (h : '\n' ∉ body) : lineBody body = body :=
  if_neg (getLast?_ne_newline h)

theorem lineEnd_last {body : List Char} (h : '\n' ∉ body) : lineEnd body = [] :=
  if_neg (getLast?_ne_newline h)

@[elab_as_elim]
theorem lines_induct {P : List Char → Prop} (nil : P [])
    (last : ∀ body, '\n' ∉ body → body ≠ [] → P body)
    (line : ∀ body rest, '\n' ∉ body → P rest → P (body ++ '\n' :: rest)) (text : List Char) :
    P text := by
  by_cases hmem : '\n' ∈ text
  · obtain ⟨body, rest, htext, hbody⟩ := List.eq_append_cons_of_mem hmem
    have hlt : rest.length < text.length := by
      rw [htext, List.length_append, List.length_cons]
      omega
    rw [htext]
    exact line body rest hbody (lines_induct nil last line rest)
  · rcases text with _ | ⟨c, cs⟩
    · exact nil
    · exact last _ hmem (List.cons_ne_nil c cs)
termination_by text.length

end Text

open Text

/-! ### The final line feed -/

theorem dropFinalNewline_of_not_mem {body : List Char} (h : '\n' ∉ body) :
    dropFinalNewline body = body :=
  if_neg (getLast?_ne_newline h)

theorem dropFinalNewline_append (front : List Char) {text : List Char} (h : text ≠ []) :
    dropFinalNewline (front ++ text) = front ++ dropFinalNewline text := by
  unfold dropFinalNewline
  rw [List.getLast?_append_of_ne_nil front h]
  split_ifs
  · rw [List.dropLast_append_of_ne_nil h]
  · rfl

theorem dropFinalNewline_line (body : List Char) : dropFinalNewline (body ++ ['\n']) = body := by
  simp [dropFinalNewline]

theorem dropFinalNewline_line_append (body rest : List Char) :
    dropFinalNewline (body ++ '\n' :: rest)
      = if rest = [] then body else body ++ '\n' :: dropFinalNewline rest := by
  split_ifs with h
  · rw [h, dropFinalNewline_line]
  · rw [List.append_cons, dropFinalNewline_append _ h, ← List.append_cons]

/-! ### Directives -/

/-- The path that a line includes, if it is a directive that can be read. -/
def includePath? (body : List Char) : Option String :=
  match Directive.parse? body with
  | some (.wellFormed _ path) => some path
  | _ => none

/-- **The paths that a text includes.** -/
def includePaths (text : List Char) : List String :=
  (splitLines text).filterMap fun line => includePath? (lineBody line)

theorem includePath?_eq_some_iff {body : List Char} {path : String} :
    includePath? body = some path ↔
      ∃ indent, Directive.parse? body = some (.wellFormed indent path) := by
  unfold includePath?
  split
  · next indent p h => simp [h]
  · next h =>
    refine ⟨nofun, ?_⟩
    rintro ⟨indent, hp⟩
    exact absurd hp (h indent path)

theorem includePaths_line {body : List Char} (h : '\n' ∉ body) (rest : List Char) :
    includePaths (body ++ '\n' :: rest) = (includePath? body).toList ++ includePaths rest := by
  unfold includePaths
  rw [splitLines_line h, List.filterMap_cons, lineBody_line]
  cases includePath? body <;> rfl

theorem includePaths_last {body : List Char} (h : '\n' ∉ body) :
    includePaths body = (includePath? body).toList := by
  by_cases hne : body = []
  · subst hne
    rfl
  · unfold includePaths
    rw [splitLines_last h hne, List.filterMap_cons, lineBody_last h]
    cases includePath? body <;> rfl

theorem includePaths_dropFinalNewline (text : List Char) :
    includePaths (dropFinalNewline text) = includePaths text := by
  induction text using lines_induct with
  | nil => rfl
  | last body h _ => rw [dropFinalNewline_of_not_mem h]
  | line body rest h ih =>
    rw [dropFinalNewline_line_append, includePaths_line h]
    split_ifs with hrest
    · rw [hrest, includePaths_last h]
      exact (List.append_nil _).symm
    · rw [includePaths_line h, ih]

theorem Directive.parse?_eq_wellFormed {body indent : List Char} {path : String}
    (h : Directive.parse? body = some (.wellFormed indent path)) :
    indent = body.takeWhile isBlank ∧ ∀ c ∈ path.toList, c ∈ body := by
  unfold Directive.parse? at h
  dsimp only at h
  split_ifs at h with hword
  have hafter := Option.some.inj h
  unfold Directive.afterWord at hafter
  split_ifs at hafter with hspace
  split at hafter
  · cases hafter
  · next q more hmore =>
    split_ifs at hafter with hq
    dsimp only at hafter
    split at hafter
    · cases hafter
    · split_ifs at hafter with hpath
      cases hafter
      refine ⟨rfl, fun c hc => ?_⟩
      rw [String.toList_ofList] at hc
      have hmem : c ∈ trimStart ((trimStart body).drop directiveWord.length) := by
        rw [hmore]
        exact List.mem_cons_of_mem q ((List.takeWhile_sublist _).subset hc)
      have hdrop := (List.dropWhile_sublist _).subset hmem
      exact (List.dropWhile_sublist _).subset ((List.drop_sublist _ _).subset hdrop)

theorem Directive.parse?_word {indent : List Char} (hindent : ∀ c ∈ indent, isBlank c)
    (rest : List Char) : Directive.parse? (indent ++ (directiveWord ++ rest))
      = some (.afterWord indent rest) := by
  have htrim : trimStart (indent ++ (directiveWord ++ rest)) = directiveWord ++ rest := by
    unfold trimStart
    rw [List.dropWhile_append_of_pos hindent]
    rfl
  have htake : (indent ++ (directiveWord ++ rest)).takeWhile isBlank = indent := by
    rw [List.takeWhile_append_of_pos hindent]
    exact List.append_nil indent
  have hword : directiveWord.isPrefixOf (directiveWord ++ rest) = true :=
    List.isPrefixOf_iff_prefix.2 (List.prefix_append _ _)
  unfold Directive.parse?
  dsimp only
  rw [htrim, if_pos hword, htake, List.drop_left]

theorem Directive.afterWord_quoted (indent : List Char) {path : List Char} (hquote : '"' ∉ path)
    (tail : List Char) : Directive.afterWord indent (' ' :: '"' :: (path ++ '"' :: tail))
      = if path ≠ [] ∧ isDirectiveTail tail then .wellFormed indent (String.ofList path)
        else .malformed := by
  have hpath : ∀ c ∈ path, decide (c ≠ '"') = true := by
    intro c hc
    exact decide_eq_true fun heq => hquote (heq ▸ hc)
  have htakePath : (path ++ '"' :: tail).takeWhile (· ≠ '"') = path := by
    rw [List.takeWhile_append_of_pos hpath]
    exact List.append_nil path
  have hdropPath : (path ++ '"' :: tail).dropWhile (· ≠ '"') = '"' :: tail := by
    rw [List.dropWhile_append_of_pos hpath]
    rfl
  have hquoted : trimStart (' ' :: '"' :: (path ++ '"' :: tail)) = '"' :: (path ++ '"' :: tail) :=
    rfl
  unfold Directive.afterWord
  rw [if_pos (Or.inl List.head?_cons), hquoted]
  dsimp only
  rw [if_pos (Or.inl rfl), htakePath, hdropPath]

/-- **A directive that is written is read back,** if its path holds no double quote. -/
theorem Directive.parse?_written {indent path : List Char} (hindent : ∀ c ∈ indent, isBlank c)
    (hquote : '"' ∉ path) (hne : path ≠ []) :
    Directive.parse? (indent ++ directiveWord ++ " \"".toList ++ path ++ ['"'])
      = some (.wellFormed indent (String.ofList path)) := by
  have hline : indent ++ directiveWord ++ " \"".toList ++ path ++ ['"']
      = indent ++ (directiveWord ++ ' ' :: '"' :: (path ++ ['"'])) := by
    simp
  rw [hline, Directive.parse?_word hindent, Directive.afterWord_quoted indent hquote]
  exact congrArg some (if_pos ⟨hne, rfl⟩)

/-! ### Texts as seen from another directory -/

/-- **A directory whose directives can be rewritten:** a path from the root, without double quotes
and line feeds. -/
structure IsPlainDirectory (dir : String) : Prop where
  absolute : isAbsolute dir = true
  quote : '"' ∉ dir.toList
  newline : '\n' ∉ dir.toList

/-- A directive as seen from another directory. -/
def Directive.rebase (dir : String) : Directive → Directive
  | malformed => malformed
  | wellFormed indent path => wellFormed indent (joinPath dir path)

section Rebase
variable {dir : String} {body : List Char}

theorem rebaseLine_of_wellFormed (hbody : '\n' ∉ body) {indent : List Char} {path : String}
    (h : Directive.parse? body = some (.wellFormed indent path)) :
    rebaseLine dir body
      = indent ++ directiveWord ++ " \"".toList ++ (joinPath dir path).toList ++ ['"'] := by
  unfold rebaseLine
  rw [lineBody_last hbody, h, lineEnd_last hbody]
  exact List.append_nil _

theorem rebaseLine_of_not_wellFormed (hbody : '\n' ∉ body)
    (h : ∀ indent path, Directive.parse? body ≠ some (.wellFormed indent path)) :
    rebaseLine dir body = body := by
  unfold rebaseLine
  rw [lineBody_last hbody]
  split
  · next indent path hp => exact absurd hp (h indent path)
  · rfl

theorem rebaseLine_cases (dir : String) (hbody : '\n' ∉ body) :
    (∃ indent path, Directive.parse? body = some (.wellFormed indent path) ∧ rebaseLine dir body
      = indent ++ directiveWord ++ " \"".toList ++ (joinPath dir path).toList ++ ['"']) ∨
    rebaseLine dir body = body := by
  by_cases hparse : ∃ indent path, Directive.parse? body = some (.wellFormed indent path)
  · obtain ⟨indent, path, hparse⟩ := hparse
    exact Or.inl ⟨indent, path, hparse, rebaseLine_of_wellFormed hbody hparse⟩
  · exact Or.inr (rebaseLine_of_not_wellFormed hbody fun indent path h =>
      hparse ⟨indent, path, h⟩)

theorem rebaseLine_line (hbody : '\n' ∉ body) :
    rebaseLine dir (body ++ ['\n']) = rebaseLine dir body ++ ['\n'] := by
  unfold rebaseLine
  rw [lineBody_line, lineEnd_line, lineBody_last hbody, lineEnd_last hbody]
  split
  · rw [List.append_nil]
  · rfl

theorem parse?_rebaseLine (hdir : IsPlainDirectory dir) (hbody : '\n' ∉ body)
    (hpath : ∀ path ∈ includePath? body, '"' ∉ path.toList) :
    Directive.parse? (rebaseLine dir body)
      = (Directive.parse? body).map (Directive.rebase dir) := by
  rcases hparse : Directive.parse? body with _ | _ | ⟨indent, path⟩
  · rw [rebaseLine_of_not_wellFormed hbody (by simp [hparse]), hparse]
    rfl
  · rw [rebaseLine_of_not_wellFormed hbody (by simp [hparse]), hparse]
    rfl
  · rw [rebaseLine_of_wellFormed hbody hparse]
    have hindent : ∀ c ∈ indent, isBlank c := by
      rw [(Directive.parse?_eq_wellFormed hparse).1]
      exact fun c hc => List.mem_takeWhile_imp hc
    have hquote : '"' ∉ (joinPath dir path).toList := by
      intro hmem
      rcases mem_joinPath hmem with h | h | h
      · exact hdir.quote h
      · cases h
      · exact hpath path (includePath?_eq_some_iff.2 ⟨indent, hparse⟩) h
    have hne : (joinPath dir path).toList ≠ [] := by
      intro hnil
      have habs := isAbsolute_joinPath hdir.absolute path
      rw [isAbsolute, hnil] at habs
      cases habs
    rw [Directive.parse?_written hindent hquote hne, String.ofList_toList]
    rfl

theorem newline_not_mem_rebased (hdir : '\n' ∉ dir.toList) (hbody : '\n' ∉ body) :
    '\n' ∉ rebaseLine dir body := by
  rcases rebaseLine_cases dir hbody with ⟨indent, path, hparse, hline⟩ | hline
  · obtain ⟨hindent, hpath⟩ := Directive.parse?_eq_wellFormed hparse
    rw [hline]
    simp only [List.mem_append, not_or]
    refine ⟨⟨⟨⟨?_, by decide⟩, by decide⟩, ?_⟩, by decide⟩
    · rw [hindent]
      exact fun h => hbody ((List.takeWhile_sublist _).subset h)
    · intro hmem
      rcases mem_joinPath hmem with h | h | h
      · exact hdir h
      · cases h
      · exact hbody (hpath _ h)
  · rw [hline]
    exact hbody

theorem newline_not_mem_rebaseLine (hdir : IsPlainDirectory dir) (hbody : '\n' ∉ body) :
    '\n' ∉ rebaseLine dir body :=
  newline_not_mem_rebased hdir.newline hbody

theorem rebaseLine_ne_nil (hbody : '\n' ∉ body) (hne : body ≠ []) : rebaseLine dir body ≠ [] := by
  rcases rebaseLine_cases dir hbody with ⟨indent, path, -, hline⟩ | hline
  · rw [hline]
    exact List.append_ne_nil_of_right_ne_nil _ (List.cons_ne_nil _ _)
  · rw [hline]
    exact hne

end Rebase

theorem rebaseDirectives_line (dir : String) {body : List Char} (h : '\n' ∉ body)
    (rest : List Char) : rebaseDirectives dir (body ++ '\n' :: rest)
      = rebaseLine dir body ++ '\n' :: rebaseDirectives dir rest := by
  unfold rebaseDirectives
  rw [splitLines_line h, List.flatMap_cons, rebaseLine_line h, ← List.append_cons]

theorem rebaseDirectives_last (dir : String) {body : List Char} (h : '\n' ∉ body) :
    rebaseDirectives dir body = rebaseLine dir body := by
  by_cases hne : body = []
  · subst hne
    rfl
  · unfold rebaseDirectives
    rw [splitLines_last h hne]
    exact List.append_nil _

theorem rebaseDirectives_eq_nil_iff {dir : String} {text : List Char} :
    rebaseDirectives dir text = [] ↔ text = [] := by
  induction text using lines_induct with
  | nil => exact ⟨fun _ => rfl, fun _ => rfl⟩
  | last body h hne =>
    rw [rebaseDirectives_last dir h]
    exact ⟨fun hnil => absurd hnil (rebaseLine_ne_nil h hne), fun hnil => absurd hnil hne⟩
  | line body rest h ih =>
    rw [rebaseDirectives_line dir h]
    simp

/-- **A rebased text ends in a line feed where the text did.** -/
theorem dropFinalNewline_rebaseDirectives {dir : String} (hdir : IsPlainDirectory dir)
    (text : List Char) : dropFinalNewline (rebaseDirectives dir text)
      = rebaseDirectives dir (dropFinalNewline text) := by
  induction text using lines_induct with
  | nil => rfl
  | last body h _ =>
    rw [dropFinalNewline_of_not_mem h, rebaseDirectives_last dir h,
      dropFinalNewline_of_not_mem (newline_not_mem_rebaseLine hdir h)]
  | line body rest h ih =>
    rw [rebaseDirectives_line dir h, dropFinalNewline_line_append, dropFinalNewline_line_append]
    by_cases hrest : rest = []
    · rw [if_pos hrest, if_pos (rebaseDirectives_eq_nil_iff.2 hrest), rebaseDirectives_last dir h]
    · rw [if_neg hrest, if_neg fun hnil => hrest (rebaseDirectives_eq_nil_iff.1 hnil), ih,
        rebaseDirectives_line dir h]

end EntityForge
