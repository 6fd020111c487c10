import EntityForge.Proofs.Include.Lines
import EntityForge.Proofs.Store.Paths
import Mathlib.Data.List.Forall2

/-! # Directives that are rewritten

A text is seen from another directory by writing its directives anew, line by line. The new
directive always stands between double quotes, while the old one may have used single ones, and a
path between double quotes ends at the first of them. So a directive is read back as it was meant
exactly if its new path holds no double quote. Otherwise the path is cut there: the line names
another file, or becomes one that cannot be read.

* `Rewritten`: a line, and the line that it becomes.
* `parse?_written_cut`: what is read back from a path with a double quote in it.
* `rewritten_rebaseLine`: what becomes of a line.
* `rebaseDirectives_rewrites`: what becomes of all lines of a text. -/

namespace EntityForge

open Text

/-! ### One line -/

/-- **A line and the line that it becomes** when it is seen from the directory `dir`. -/
structure Rewritten (dir : String) (line line' : List Char) : Prop where
  /-- The line feed stays. -/
  ending : lineEnd line' = lineEnd line
  /-- What is no readable directive stays. -/
  kept : (∀ indent path, Directive.parse? (lineBody line) ≠ some (.wellFormed indent path)) →
    line' = line
  /-- A directive stays where it is in its line. -/
  indented : ∀ indent path, Directive.parse? (lineBody line) = some (.wellFormed indent path) →
    indent <+: line ∧ indent <+: line'
  /-- A path without double quotes is read back, as seen from the directory. -/
  restored : ∀ indent path, Directive.parse? (lineBody line) = some (.wellFormed indent path) →
    '"' ∉ (joinPath dir path).toList →
      Directive.parse? (lineBody line') = some (.wellFormed indent (joinPath dir path))
  /-- A path with a double quote is cut there. -/
  cut : ∀ indent path, Directive.parse? (lineBody line) = some (.wellFormed indent path) →
    ∀ front rest, (joinPath dir path).toList = front ++ '"' :: rest → '"' ∉ front →
      Directive.parse? (lineBody line') = some
        (if front ≠ [] ∧ isDirectiveTail (rest ++ ['"']) then
          .wellFormed indent (String.ofList front) else .malformed)

theorem Directive.path_ne_empty {body indent : List Char} {path : String}
    (h : Directive.parse? body = some (.wellFormed indent path)) : path ≠ "" := by
  unfold Directive.parse? at h
  dsimp only at h
  split_ifs at h
  have hafter := Option.some.inj h
  unfold Directive.afterWord at hafter
  split_ifs at hafter
  split at hafter
  · cases hafter
  · split_ifs at hafter
    dsimp only at hafter
    split at hafter
    · cases hafter
    · split_ifs at hafter with hpath
      cases hafter
      exact fun hempty => hpath.1 (String.ofList_eq_empty_iff.1 hempty)

theorem Directive.parse?_written_cut {indent front : List Char} (hindent : ∀ c ∈ indent, isBlank c)
    (hfront : '"' ∉ front) (rest : List Char) :
    Directive.parse? (indent ++ directiveWord ++ " \"".toList ++ (front ++ '"' :: rest) ++ ['"'])
      = some (if front ≠ [] ∧ isDirectiveTail (rest ++ ['"']) then
          .wellFormed indent (String.ofList front) else .malformed) := by
  have hline : indent ++ directiveWord ++ " \"".toList ++ (front ++ '"' :: rest) ++ ['"']
      = indent ++ (directiveWord ++ ' ' :: '"' :: (front ++ '"' :: (rest ++ ['"']))) := by
    simp
  rw [hline, Directive.parse?_word hindent, Directive.afterWord_quoted indent hfront]

theorem lineBody_append_ending {body ending : List Char} (hbody : '\n' ∉ body)
    (hending : ending = [] ∨ ending = ['\n']) : lineBody (body ++ ending) = body := by
  rcases hending with rfl | rfl
  · rw [List.append_nil, lineBody_last hbody]
  · exact lineBody_line body

theorem lineEnd_append_ending {body ending : List Char} (hbody : '\n' ∉ body)
    (hending : ending = [] ∨ ending = ['\n']) : lineEnd (body ++ ending) = ending := by
  rcases hending with rfl | rfl
  · rw [List.append_nil, lineEnd_last hbody]
  · exact lineEnd_line body

theorem rewritten_rebaseLine {dir : String} (hdir : '\n' ∉ dir.toList) {body ending : List Char}
    (hbody : '\n' ∉ body) (hending : ending = [] ∨ ending = ['\n']) :
    Rewritten dir (body ++ ending) (rebaseLine dir body ++ ending) := by
  have hnew := newline_not_mem_rebased hdir hbody
  have hblank : ∀ {indent path}, Directive.parse? body = some (.wellFormed indent path) →
      ∀ c ∈ indent, isBlank c := by
    intro indent path h
    rw [(Directive.parse?_eq_wellFormed h).1]
    exact fun c hc => List.mem_takeWhile_imp hc
  constructor
  case ending => rw [lineEnd_append_ending hnew hending, lineEnd_append_ending hbody hending]
  all_goals rw [lineBody_append_ending hbody hending]
  case kept =>
    intro h
    rw [rebaseLine_of_not_wellFormed hbody h]
  case indented =>
    intro indent path h
    have hindent := (Directive.parse?_eq_wellFormed h).1
    rw [rebaseLine_of_wellFormed hbody h]
    refine ⟨?_, ?_⟩
    · rw [hindent]
      exact (List.takeWhile_prefix _).trans (List.prefix_append _ _)
    · simp only [List.append_assoc]
      exact List.prefix_append _ _
  all_goals rw [lineBody_append_ending hnew hending]
  case restored =>
    intro indent path h hquote
    have hne : (joinPath dir path).toList ≠ [] := fun hnil =>
      joinPath_ne_empty dir (Directive.path_ne_empty h) (String.toList_eq_nil_iff.1 hnil)
    rw [rebaseLine_of_wellFormed hbody h, Directive.parse?_written (hblank h) hquote hne,
      String.ofList_toList]
  case cut =>
    intro indent path h front rest hpath hfront
    rw [rebaseLine_of_wellFormed hbody h, hpath,
      Directive.parse?_written_cut (hblank h) hfront rest]

/-! ### All lines -/

theorem getLast?_line_append_iff (body rest : List Char) :
    (body ++ '\n' :: rest).getLast? = some '\n' ↔ rest = [] ∨ rest.getLast? = some '\n' := by
  rcases rest with _ | ⟨c, rest⟩
  · simp
  · simp [List.getLast?_append]

theorem getLast?_rebaseDirectives_iff {dir : String} (hdir : '\n' ∉ dir.toList) (text : List Char) :
    (rebaseDirectives dir text).getLast? = some '\n' ↔ text.getLast? = some '\n' := by
  induction text using lines_induct with
  | nil => exact Iff.rfl
  | last body h _ =>
    rw [rebaseDirectives_last dir h]
    have hnew := getLast?_ne_newline (newline_not_mem_rebased hdir h)
    exact iff_of_false hnew (getLast?_ne_newline h)
  | line body rest h ih =>
    rw [rebaseDirectives_line dir h, getLast?_line_append_iff, getLast?_line_append_iff,
      rebaseDirectives_eq_nil_iff, ih]

theorem forall₂_rewritten {dir : String} (hdir : '\n' ∉ dir.toList) (text : List Char) :
    List.Forall₂ (Rewritten dir) (splitLines text) (splitLines (rebaseDirectives dir text)) := by
  induction text using lines_induct with
  | nil => exact .nil
  | last body h hne =>
    rw [rebaseDirectives_last dir h, splitLines_last h hne,
      splitLines_last (newline_not_mem_rebased hdir h) (rebaseLine_ne_nil h hne)]
    have hline := rewritten_rebaseLine hdir h (Or.inl rfl)
    rw [List.append_nil, List.append_nil] at hline
    exact .cons hline .nil
  | line body rest h ih =>
    rw [rebaseDirectives_line dir h, splitLines_line h,
      splitLines_line (newline_not_mem_rebased hdir h)]
    exact .cons (rewritten_rebaseLine hdir h (Or.inr rfl)) ih

/-- **Rewriting keeps the lines of a text.** As seen from another directory, a text has as many
lines as before and ends in a line feed where it did. A line that is no readable directive is the
same, and a directive keeps its place in the line and is read back with its path as seen from the
directory, unless that path holds a double quote. -/
theorem rebaseDirectives_rewrites {dir : String} (hdir : '\n' ∉ dir.toList) (text : List Char) :
    (splitLines (rebaseDirectives dir text)).length = (splitLines text).length ∧
    ((rebaseDirectives dir text).getLast? = some '\n' ↔ text.getLast? = some '\n') ∧
    List.Forall₂ (Rewritten dir) (splitLines text) (splitLines (rebaseDirectives dir text)) :=
  ⟨(forall₂_rewritten hdir text).length_eq.symm, getLast?_rebaseDirectives_iff hdir text,
    forall₂_rewritten hdir text⟩

/-- A text with directives of both kinds, one that cannot be read, and other lines. -/
def mixedText : List Char :=
  "x\n  #include 'c' // leaf\r\n#include c\n\t#include \"/abs\"".toList

theorem rebaseDirectives_rewrites_mixed :
    '\n' ∉ "/base".toList ∧
    rebaseDirectives "/base" mixedText
      = "x\n  #include \"/base/c\"\n#include c\n\t#include \"/abs\"".toList ∧
    (splitLines (rebaseDirectives "/base" mixedText)).length = (splitLines mixedText).length ∧
    ((rebaseDirectives "/base" mixedText).getLast? = some '\n' ↔
      mixedText.getLast? = some '\n') ∧
    List.Forall₂ (Rewritten "/base") (splitLines mixedText)
      (splitLines (rebaseDirectives "/base" mixedText)) := by
  have hdir : '\n' ∉ "/base".toList := by decide
  exact ⟨hdir, by decide, rebaseDirectives_rewrites hdir mixedText⟩

/-- **A path with a double quote is not read back,** whether the quote is in the path or in the
directory: the directive can no longer be read, or it names another file. -/
theorem rebaseDirectives_loses_quote :
    (Directive.parse? "#include 'a\"b'".toList = some (.wellFormed [] "a\"b") ∧
      Directive.parse? (rebaseDirectives "/base" "#include 'a\"b'".toList) = some .malformed) ∧
    (Directive.parse? "#include 'a\" //b'".toList = some (.wellFormed [] "a\" //b") ∧
      Directive.parse? (rebaseDirectives "/base" "#include 'a\" //b'".toList)
        = some (.wellFormed [] "/base/a")) ∧
    Directive.parse? "#include \"c\"".toList = some (.wellFormed [] "c") ∧
      Directive.parse? (rebaseDirectives "/a\"b" "#include \"c\"".toList) = some .malformed := by
  decide

end EntityForge
