import EntityForge.Proofs.Script.Comment
import EntityForge.Proofs.Script.RoundTrip
import EntityForge.Proofs.Include.Lines
import Mathlib.Data.List.Chain

/-! # Lines inside a statement

A generated file binds its variables by lines that start with `var`, or with blanks if several
modules are required by one statement. What is written inside a statement, such as a literal with
its parts on lines of their own, is indented with tabs, and texts in it are quoted, so that none of
its lines can be taken for one that binds a variable.

* `Inside`: a text whose lines bind no variable; `Nested` leaves out its first line.
* `Nested.append_lines`: a text line by line. `Inside.isInner_of_mem`: its lines.
* `eq_of_append_var`: what stands behind the last line that declares a variable.
* `Literal.nested_render`: an indented literal. -/

namespace EntityForge

open Script

/-- Whether a character can start a line that binds a variable: the first of `var`, or a blank
before one of several modules. -/
def opensBinding (c : Char) : Bool :=
  c = 'v' || c = ' '

/-- **A line that binds no variable,** as its first character shows. -/
def IsInner (line : List Char) : Prop :=
  ∀ c ∈ line.head?, opensBinding c = false

/-- **A text in which no line binds a variable,** except perhaps the first. -/
def Nested (text : List Char) : Prop :=
  text.IsChain fun c d => c = '\n' → opensBinding d = false

/-- **A text in which no line binds a variable,** the first one included. -/
structure Inside (text : List Char) : Prop where
  nested : Nested text
  isInner : IsInner text

section Nested
variable {a b text : List Char}

theorem isInner_nil : IsInner [] := by
  simp [IsInner]

theorem isInner_cons {c : Char} {line : List Char} :
    IsInner (c :: line) ↔ opensBinding c = false := by
  simp [IsInner]

theorem IsInner.append (ha : IsInner a) (hb : IsInner b) : IsInner (a ++ b) := by
  rcases a with _ | ⟨c, a⟩
  · exact hb
  · exact isInner_cons.2 (isInner_cons.1 ha)

theorem nested_of_not_mem (h : '\n' ∉ text) : Nested text := by
  induction text with
  | nil => exact .nil
  | cons c text ih =>
    obtain ⟨hc, htext⟩ := not_or.1 (mt List.mem_cons.2 h)
    exact List.isChain_cons.2 ⟨fun _ _ heq => absurd heq.symm hc, ih htext⟩

theorem inside_nil : Inside [] :=
  ⟨.nil, isInner_nil⟩

theorem inside_line {c : Char} {line : List Char} (h : '\n' ∉ c :: line)
    (hc : opensBinding c = false) : Inside (c :: line) :=
  ⟨nested_of_not_mem h, isInner_cons.2 hc⟩

theorem Nested.append (ha : Nested a) (hb : Inside b) : Nested (a ++ b) :=
  List.IsChain.append ha hb.nested fun _ _ d hd _ => hb.isInner d hd

theorem Nested.append_left (hb : Nested b) (h : '\n' ∉ a) : Nested (a ++ b) :=
  List.IsChain.append (nested_of_not_mem h) hb fun _ hc _ _ heq =>
    absurd (List.mem_of_getLast? (heq ▸ hc)) h

theorem Nested.append_lines (ha : Nested a) {lines : List (List Char)}
    (h : ∀ line ∈ lines, Inside line) : Nested (a ++ lines.flatMap ('\n' :: ·)) := by
  induction lines generalizing a with
  | nil => simpa using ha
  | cons line lines ih =>
    obtain ⟨hline, hlines⟩ := List.forall_mem_cons.1 h
    have hnext : Nested ('\n' :: (line ++ lines.flatMap ('\n' :: ·))) := by
      refine List.isChain_cons.2 ⟨fun d hd _ => ?_, ih hline.nested hlines⟩
      rcases line with _ | ⟨c, line⟩
      · rcases lines with _ | ⟨next, lines⟩
        · cases hd
        · cases hd
          decide
      · cases hd
        exact isInner_cons.1 hline.isInner
    exact ha.append ⟨hnext, isInner_cons.2 (by decide)⟩

theorem Inside.append_comma (ha : Inside a) {lines : List (List Char)}
    (h : ∀ line ∈ lines, Inside line) : Inside (a ++ [','] ++ lines.flatMap ('\n' :: ·)) := by
  have hcomma : Inside [','] := inside_line (by decide) (by decide)
  refine ⟨(ha.nested.append hcomma).append_lines h, (ha.isInner.append hcomma.isInner).append ?_⟩
  rcases lines with _ | ⟨line, lines⟩
  · exact isInner_nil
  · exact isInner_cons.2 (by decide)

theorem not_nested (a b : List Char) : ¬ Nested (a ++ '\n' :: 'v' :: b) := by
  intro h
  have hpair := (List.isChain_split.1 h).2
  exact absurd ((List.isChain_cons_cons.1 hpair).1 rfl) (by decide)

/-- **What stands behind the last line that declares a variable** is told from the whole text. -/
theorem eq_of_append_var {r s : List Char} (hr : Nested r) (hs : Nested s)
    (h : a ++ '\n' :: 'v' :: r = b ++ '\n' :: 'v' :: s) : r = s := by
  -- If the texts before them differ in length, the shorter rest stands inside the longer one.
  have hshift : ∀ {more r s : List Char}, Nested r →
      '\n' :: 'v' :: r = more ++ '\n' :: 'v' :: s → r = s := by
    intro more r s hr heq
    rcases more with _ | ⟨_, _ | ⟨_, more⟩⟩
    · simpa using heq
    · simp at heq
    · have hinside : r = more ++ '\n' :: 'v' :: s := by
        simp only [List.cons_append, List.cons.injEq] at heq
        exact heq.2.2
      exact absurd (hinside ▸ hr) (not_nested more s)
  rcases List.append_eq_append_iff.1 h with ⟨more, -, heq⟩ | ⟨more, -, heq⟩
  · exact hshift hr heq
  · exact (hshift hs heq).symm

theorem Inside.isInner_of_mem (h : Inside text) : ∀ line ∈ text.splitOn '\n', IsInner line := by
  induction text using Text.lines_induct with
  | nil => simpa using isInner_nil
  | last body hbody _ => simpa [List.splitOn_eq_singleton hbody] using h.isInner
  | line body rest hbody ih =>
    rw [List.splitOn_append_cons_self, List.splitOn_eq_singleton hbody]
    obtain ⟨-, hrest⟩ := List.isChain_split.1 h.nested
    obtain ⟨hstart, htail⟩ := List.isChain_cons.1 hrest
    refine List.forall_mem_append.2
      ⟨List.forall_mem_singleton.2 ?_, ih ⟨htail, fun c hc => hstart c hc rfl⟩⟩
    rcases body with _ | ⟨c, body⟩
    · exact isInner_nil
    · exact isInner_cons.2 (isInner_cons.1 h.isInner)

end Nested

/-! ### Literals -/

theorem newline_not_mem_of_isBareName {name : String} (h : isBareName name = true) :
    '\n' ∉ name.toList := by
  obtain ⟨c, cs, hname, hstart, hgo⟩ := exists_cons_of_isBareName h
  have hchars : ∀ x ∈ name.toList, isWordChar x = true := by
    rw [hname]
    exact List.forall_mem_cons.2 ⟨isWordChar_of_isWordStart hstart, hgo⟩
  exact fun hmem => absurd (hchars '\n' hmem) (by decide)

theorem newline_not_mem_quote (s : String) : '\n' ∉ (quote s).toList := by
  simpa [quote] using newline_not_mem_quoted s.toList

theorem newline_not_mem_propertyName (name : String) : '\n' ∉ (propertyName name).toList := by
  unfold propertyName
  split_ifs with hbare
  · exact newline_not_mem_of_isBareName hbare
  · exact newline_not_mem_quote name

theorem newline_not_mem_tabs (depth : ℕ) : '\n' ∉ (tabs depth).toList := by
  simp [tabs, List.mem_replicate]

theorem Nested.indent {text : String} (h : Nested text.toList) (depth : ℕ) :
    Inside (tabs (depth + 1) ++ text).toList := by
  have htabs :
      (tabs (depth + 1) ++ text).toList = '\t' :: ((tabs depth).toList ++ text.toList) := by
    simp [tabs, List.replicate_succ]
  refine ⟨?_, by rw [htabs]; exact isInner_cons.2 (by decide)⟩
  rw [String.toList_append]
  exact h.append_left (newline_not_mem_tabs _)

theorem inside_commaLines {lines : List String} (h : ∀ line ∈ lines, Inside line.toList) :
    Inside (commaLines lines).toList := by
  induction lines with
  | nil => exact inside_nil
  | cons line lines ih =>
    obtain ⟨hline, hlines⟩ := List.forall_mem_cons.1 h
    rcases lines with _ | ⟨next, lines⟩
    · simpa [commaLines] using hline
    · have htext : (commaLines (line :: next :: lines)).toList = line.toList ++ [',']
          ++ [(commaLines (next :: lines)).toList].flatMap ('\n' :: ·) := by
        simp [commaLines, String.intercalate_cons_cons]
      rw [htext]
      exact hline.append_comma (List.forall_mem_singleton.2 (ih hlines))

theorem nested_enclosed {left right : Char} (hleft : left ≠ '\n')
    (hright : opensBinding right = false) (depth : ℕ) {lines : List String}
    (h : ∀ line ∈ lines, Inside line.toList) : Nested (left :: '\n' :: ((commaLines lines).toList
      ++ '\n' :: ((tabs depth).toList ++ [right]))) := by
  have htext : left :: '\n' :: ((commaLines lines).toList
        ++ '\n' :: ((tabs depth).toList ++ [right]))
      = [left] ++ [(commaLines lines).toList, (tabs depth).toList ++ [right]].flatMap
        ('\n' :: ·) := by
    simp
  have hclosing : Nested ((tabs depth).toList ++ [right]) :=
    Nested.append_left (List.isChain_singleton right) (newline_not_mem_tabs depth)
  have hinner : IsInner ((tabs depth).toList ++ [right]) := by
    rcases depth with _ | depth
    · exact isInner_cons.2 hright
    · simp [tabs, List.replicate_succ, isInner_cons, opensBinding]
  rw [htext]
  refine (nested_of_not_mem (by simpa using hleft.symm)).append_lines ?_
  exact List.forall_mem_cons.2
    ⟨inside_commaLines h, List.forall_mem_singleton.2 ⟨hclosing, hinner⟩⟩

/-- **An indented literal** stays inside its statement. -/
theorem Literal.nested_render {v : Literal} (hv : v.WellSpelled) (depth : ℕ) :
    Nested (v.render (depth + 1)).toList := by
  induction v generalizing depth with
  | number n =>
    exact nested_of_not_mem ((wellSpelled_number.1 hv).not_mem (by decide) (by decide))
  | string s => exact nested_of_not_mem (newline_not_mem_quote s)
  | boolean b => exact nested_of_not_mem (by cases b <;> simp [render])
  | object fs ih =>
    rcases fs with _ | ⟨f, fs⟩
    · exact nested_of_not_mem (by simp [render])
    · have htext : (render (depth + 1) (object (f :: fs))).toList
          = '\x7b' :: '\n' :: ((commaLines (fieldLines (depth + 1) (f :: fs))).toList
            ++ '\n' :: ((tabs depth).toList ++ ['\x7d'])) := by
        simp [render]
      rw [htext, fieldLines_eq]
      refine nested_enclosed (by decide) (by decide) depth (List.forall_mem_map.2 fun x hx => ?_)
      have hvalue := ih x hx (wellSpelled_object.1 hv x hx) (depth + 1)
      have hname : '\n' ∉ (propertyName x.1 ++ ": ").toList := by
        simpa using newline_not_mem_propertyName x.1
      have hfield := hvalue.append_left hname
      rw [← String.toList_append] at hfield
      exact hfield.indent depth
  | array es ih =>
    rcases es with _ | ⟨e, es⟩
    · exact nested_of_not_mem (by simp [render])
    · have htext : (render (depth + 1) (array (e :: es))).toList
          = '[' :: '\n' :: ((commaLines (elementLines (depth + 1) (e :: es))).toList
            ++ '\n' :: ((tabs depth).toList ++ [']'])) := by
        simp [render]
      rw [htext, elementLines_eq]
      refine nested_enclosed (by decide) (by decide) depth (List.forall_mem_map.2 fun x hx => ?_)
      exact (ih x hx (wellSpelled_array.1 hv x hx) (depth + 1)).indent depth

end EntityForge
