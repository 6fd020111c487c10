import EntityForge.Script.ComponentModule
import EntityForge.Proofs.Script.Comment
import EntityForge.Proofs.Script.RoundTrip
import EntityForge.Proofs.Grammar.Acceptance
import EntityForge.Proofs.Include.Lines
import Mathlib.Data.List.Forall2

/-! # The documentation of a constructor is a comment

The documentation of a constructor is written as one comment with a line for each property. The
names of the properties stand in it as they are, and texts among the defaults are only quoted. So
the comment ends where it should exactly if no name and no text closes it, and a property has one
line exactly if its name has one.

* `closings_parameterDoc_eq_zero_iff`, `newline_mem_parameterDoc_iff`: the line of a property.
* `toList_optionsDoc`, `toList_optionsDoc_eq_comment`: all lines, and the comment they are.
* `wellSpelled_of_parseDescription`: the numbers of a description are spelled like numbers.
* `optionsDoc_closes_once`: the documentation of the properties of a description. -/

namespace EntityForge

open Script

/-! ### The line of a property -/

/-- The default that the documentation of a property shows. -/
def defaultText (v : Literal) : String :=
  if v.isSimple then "=" ++ v.render 0 else ""

theorem parameterDoc_eq (p : Property) : parameterDoc p
    = " * @param \x7b" ++ p.2.kindName ++ "\x7d [options." ++ p.1 ++ defaultText p.2 ++ "]" := rfl

theorem toList_defaultText_string (s : String) : (defaultText (.string s)).toList
    = '=' :: '\'' :: (s.toList.flatMap quoteChar ++ ['\'']) := by
  simp [defaultText, Literal.isSimple, Literal.render, quote]

theorem toList_defaultText_number (n : String) :
    (defaultText (.number n)).toList = '=' :: n.toList := by
  simp [defaultText, Literal.isSimple, Literal.render]

/-- **A default closes a comment** only if it is a text that does. -/
theorem closings_defaultText_eq_zero_iff {v : Literal} (hv : v.WellSpelled) :
    closings (defaultText v).toList = 0 ↔ ∀ s, v = .string s → ¬ ['*', '/'] <:+: s.toList := by
  cases v with
  | number n =>
    refine iff_of_true ?_ fun s hs => by cases hs
    have hstar := (Literal.wellSpelled_number.1 hv).not_mem (c := '*') (by decide) (by decide)
    rw [toList_defaultText_number]
    exact closings_eq_zero_of_not_mem (by simp [hstar])
  | string s =>
    have hquoted : closings (defaultText (.string s)).toList = closings s.toList := by
      rw [toList_defaultText_string, closings_cons, closings_cons,
        closings_append_of_head (by simp), closings_quoted]
      simp [closesBetween, closings]
    rw [hquoted, closings_eq_zero_iff]
    simp
  | boolean b =>
    refine iff_of_true ?_ fun s hs => by cases hs
    cases b <;> decide
  | object fs => exact iff_of_true rfl fun s hs => by cases hs
  | array es => exact iff_of_true rfl fun s hs => by cases hs

theorem newline_not_mem_defaultText {v : Literal} (hv : v.WellSpelled) :
    '\n' ∉ (defaultText v).toList := by
  cases v with
  | number n =>
    rw [toList_defaultText_number]
    simp [(Literal.wellSpelled_number.1 hv).not_mem (c := '\n') (by decide) (by decide)]
  | string s =>
    rw [toList_defaultText_string]
    simpa using newline_not_mem_quoted s.toList
  | boolean b => cases b <;> decide
  | object fs => exact List.not_mem_nil
  | array es => exact List.not_mem_nil

/-- What stands before the name in the line of a property of some kind. -/
def parameterFront (kind : String) : List Char :=
  (" * @param \x7b" ++ kind ++ "\x7d [options.").toList

theorem toList_parameterDoc (p : Property) : (parameterDoc p).toList
    = parameterFront p.2.kindName ++ (p.1.toList ++ ((defaultText p.2).toList ++ [']'])) := by
  simp [parameterDoc_eq, parameterFront]

theorem kindName_mem (v : Literal) :
    v.kindName ∈ ["number", "string", "boolean", "Object", "Array"] := by
  cases v <;> simp [Literal.kindName]

theorem parameterFront_plain (v : Literal) : closings (parameterFront v.kindName) = 0 ∧
    (parameterFront v.kindName).getLast? ≠ some '*' ∧ '\n' ∉ parameterFront v.kindName := by
  have hall : ∀ kind ∈ ["number", "string", "boolean", "Object", "Array"],
      closings (parameterFront kind) = 0 ∧ (parameterFront kind).getLast? ≠ some '*' ∧
        '\n' ∉ parameterFront kind := by decide
  exact hall _ (kindName_mem v)

/-- **A property whose name and default do not close a comment.** -/
def KeepsComment (p : Property) : Prop :=
  ¬ ['*', '/'] <:+: p.1.toList ∧ ∀ s, p.2 = .string s → ¬ ['*', '/'] <:+: s.toList

instance (p : Property) : Decidable (KeepsComment p) :=
  match p with
  | (name, .string s) =>
    decidable_of_iff (¬ ['*', '/'] <:+: name.toList ∧ ¬ ['*', '/'] <:+: s.toList)
      (by simp [KeepsComment])
  | (name, .number _) | (name, .boolean _) | (name, .object _) | (name, .array _) =>
    decidable_of_iff (¬ ['*', '/'] <:+: name.toList) (by simp [KeepsComment])

theorem closings_parameterDoc (p : Property) : closings (parameterDoc p).toList
    = closings p.1.toList + closings (defaultText p.2).toList := by
  obtain ⟨hfront, hlast, -⟩ := parameterFront_plain p.2
  have hdefault : ((defaultText p.2).toList ++ [']']).head? ≠ some '/' := by
    cases p.2 <;> simp [defaultText, Literal.isSimple]
  rw [toList_parameterDoc, closings_append_of_last hlast, hfront, Nat.zero_add,
    closings_append_of_head hdefault, closings_append_of_head (by simp)]
  rfl

theorem closings_parameterDoc_eq_zero_iff {p : Property} (hp : p.2.WellSpelled) :
    closings (parameterDoc p).toList = 0 ↔ KeepsComment p := by
  rw [closings_parameterDoc, Nat.add_eq_zero_iff, closings_eq_zero_iff,
    closings_defaultText_eq_zero_iff hp]
  rfl

theorem newline_mem_parameterDoc_iff {p : Property} (hp : p.2.WellSpelled) :
    '\n' ∈ (parameterDoc p).toList ↔ '\n' ∈ p.1.toList := by
  have hfront := (parameterFront_plain p.2).2.2
  rw [toList_parameterDoc]
  simp [hfront, newline_not_mem_defaultText hp]

/-! ### All lines -/

section Lines
variable (first : List Char) (lines : List (List Char))

theorem intercalate_newline :
    ['\n'].intercalate (first :: lines) = first ++ lines.flatMap ('\n' :: ·) := by
  induction lines generalizing first with
  | nil => simp
  | cons line lines ih => simp [List.intercalate_cons_cons, ih]

theorem closings_lines_eq_zero_iff : closings (first ++ lines.flatMap ('\n' :: ·)) = 0 ↔
    closings first = 0 ∧ ∀ line ∈ lines, closings line = 0 := by
  induction lines generalizing first with
  | nil => simp
  | cons line lines ih =>
    have hbreak : closesBetween (some '\n') (line ++ lines.flatMap ('\n' :: ·)).head? = 0 := by
      simp [closesBetween]
    rw [List.flatMap_cons, List.cons_append, closings_append_of_head (by simp), closings_cons,
      hbreak, Nat.zero_add, Nat.add_eq_zero_iff, ih, List.forall_mem_cons]

theorem count_newline_lines : (first ++ lines.flatMap ('\n' :: ·)).count '\n'
    = lines.length + (first ++ lines.flatten).count '\n' := by
  induction lines generalizing first with
  | nil => simp
  | cons line lines ih =>
    rw [List.flatMap_cons, List.cons_append, List.count_append, List.count_cons_self, ih]
    simp only [List.flatten_cons, List.length_cons, List.count_append]
    omega

end Lines

theorem length_splitOn_newline (text : List Char) :
    (text.splitOn '\n').length = text.count '\n' + 1 := by
  induction text using Text.lines_induct with
  | nil => rfl
  | last body h _ => simp [List.splitOn_eq_singleton h, List.count_eq_zero.2 h]
  | line body rest h ih =>
    rw [List.splitOn_append_cons_self, List.splitOn_eq_singleton h, List.length_append, ih,
      List.count_append, List.count_cons_self, List.count_eq_zero.2 h, List.length_singleton]
    omega

/-- The first lines of every documentation. -/
def docOpening : List (List Char) :=
  ["/**".toList, " * @constructor".toList, " * @param \x7bObject\x7d [options]".toList]

/-- The lines of the properties. -/
def parameterLines (ps : List Property) : List (List Char) :=
  ps.map fun p => (parameterDoc p).toList

/-- What stands between the marks of the comment. -/
def docInside (ps : List Property) : List Char :=
  ['*'] ++ (docOpening.tail ++ parameterLines ps ++ [[' ']]).flatMap ('\n' :: ·)

theorem toList_optionsDoc (ps : List Property) : (optionsDoc ps).toList
    = ['\n'].intercalate (docOpening ++ parameterLines ps ++ [" */".toList]) := by
  rw [optionsDoc, String.toList_intercalate]
  simp [docOpening, parameterLines, Function.comp_def]

theorem toList_optionsDoc_eq_comment (ps : List Property) :
    (optionsDoc ps).toList = '/' :: '*' :: (docInside ps ++ ['*', '/']) := by
  rw [toList_optionsDoc, docOpening, List.cons_append, List.cons_append, intercalate_newline]
  simp [docInside, docOpening]

theorem closings_optionsDoc (ps : List Property) :
    closings (optionsDoc ps).toList = closings (docInside ps) + 1 := by
  have hfixed : closings ['/', '*'] = 0 ∧ closings ['*', '/'] = 1 := by decide
  have hhead : (docInside ps ++ ['*', '/']).head? ≠ some '/' := by simp [docInside]
  have hdoc : (optionsDoc ps).toList = ['/', '*'] ++ (docInside ps ++ ['*', '/']) :=
    toList_optionsDoc_eq_comment ps
  rw [hdoc, closings_append_of_head hhead, closings_append_of_head (by simp), hfixed.1, hfixed.2,
    Nat.zero_add]

theorem length_splitOn_optionsDoc (ps : List Property) :
    ((optionsDoc ps).toList.splitOn '\n').length
      = ps.length + 4 + (parameterLines ps).flatten.count '\n' := by
  have hdoc : (optionsDoc ps).toList = "/**".toList
      ++ (docOpening.tail ++ parameterLines ps ++ [" */".toList]).flatMap ('\n' :: ·) := by
    rw [toList_optionsDoc, ← intercalate_newline]
    rfl
  have hfixed : "/**".toList.count '\n' = 0 ∧ docOpening.tail.flatten.count '\n' = 0 ∧
      [" */".toList].flatten.count '\n' = 0 := by decide
  have hlength : (docOpening.tail ++ parameterLines ps ++ [" */".toList]).length
      = ps.length + 3 := by
    simp [docOpening, parameterLines]
  rw [hdoc, length_splitOn_newline, count_newline_lines, hlength]
  simp only [List.flatten_append, List.count_append, hfixed]
  omega

/-! ### The properties of a description -/

/-- **All property lists of a program,** those of its components and those of the instances in its
templates. -/
def Program.propertyLists (p : Program) : List (List Property) :=
  p.components.map Component.properties
    ++ p.templates.flatMap fun t => t.instances.map Component.properties

theorem PropertiesTree.exists_token_of_mem_numbers {e : PropertiesTree} {q : Property}
    (hq : q ∈ e.properties) {n : String} (hn : n ∈ q.2.numbers) :
    ∃ t ∈ e.tokens, t.val = .number n := by
  obtain ⟨pair, hpair, rfl⟩ := List.mem_map.1 hq
  obtain ⟨t, ht, htn⟩ := pair.value.exists_token_of_mem_numbers hn
  have htp : t ∈ pair.tokens := List.mem_cons_of_mem _ (List.mem_cons_of_mem _ ht)
  exact ⟨t, Enclosed.mem_tokens_of_mem_items hpair htp, htn⟩

theorem DescriptionTree.exists_tree_of_propertyLists {d : DescriptionTree} {name : Name}
    {ps : List Property} (hps : ps ∈ (d.program name).propertyLists) :
    ∃ e : PropertiesTree, ps = e.properties ∧ e.tokens ⊆ d.tokens := by
  rcases List.mem_append.1 hps with hps | hps
  · obtain ⟨c, hc, rfl⟩ := List.mem_map.1 hps
    obtain ⟨tree, htree, hmeant⟩ := List.mem_filterMap.1 hc
    cases tree with
    | component keyword c =>
      cases hmeant
      refine ⟨c.properties, rfl, fun t ht => List.mem_flatMap.2 ⟨_, htree, ?_⟩⟩
      exact List.mem_cons_of_mem _ (List.mem_cons_of_mem _ ht)
    | _ => cases hmeant
  · obtain ⟨t, ht, hps⟩ := List.mem_flatMap.1 hps
    obtain ⟨c, hc, rfl⟩ := List.mem_map.1 hps
    obtain ⟨tree, htree, hmeant⟩ := List.mem_filterMap.1 ht
    cases tree with
    | template keyword name parent left instances right =>
      cases hmeant
      obtain ⟨i, hi, rfl⟩ := List.mem_map.1 hc
      refine ⟨i.component.properties, rfl, fun t ht => List.mem_flatMap.2 ⟨_, htree, ?_⟩⟩
      have hinstance : t ∈ i.tokens := List.mem_append_left _ (List.mem_cons_of_mem _ ht)
      have hinside : t ∈ instances.flatMap InstanceTree.tokens :=
        List.mem_flatMap.2 ⟨i, hi, hinstance⟩
      simp [DeclarationTree.tokens, hinside]
    | _ => cases hmeant

/-- **The numbers of a description are spelled like numbers.** -/
theorem wellSpelled_of_parseDescription {source : String} {p : Program}
    (h : parseDescription (scan source).tokens = .ok p) {ps : List Property}
    (hps : ps ∈ p.propertyLists) : ∀ q ∈ ps, q.2.WellSpelled := by
  obtain ⟨d, htokens, name, span, -, rfl⟩ := parseDescription_eq_ok_iff.1 h
  obtain ⟨e, rfl, hsubset⟩ := DescriptionTree.exists_tree_of_propertyLists hps
  intro q hq n hn
  obtain ⟨t, ht, htn⟩ := PropertiesTree.exists_token_of_mem_numbers hq hn
  exact isNumber_of_mem_scan (htokens ▸ hsubset ht) htn

/-! ### The documentation of a description -/

section Documentation
variable {ps : List Property} (hps : ∀ q ∈ ps, q.2.WellSpelled)
include hps

theorem closings_docInside_eq_zero_iff :
    closings (docInside ps) = 0 ↔ ∀ q ∈ ps, KeepsComment q := by
  have hfixed : closings ['*'] = 0 ∧ (∀ line ∈ docOpening.tail, closings line = 0) ∧
      ∀ line ∈ [[' ']], closings line = 0 := by decide
  have hlines : (∀ line ∈ parameterLines ps, closings line = 0) ↔ ∀ q ∈ ps, KeepsComment q :=
    List.forall_mem_map.trans
      (forall₂_congr fun q hq => closings_parameterDoc_eq_zero_iff (hps q hq))
  rw [docInside, closings_lines_eq_zero_iff, List.forall_mem_append, List.forall_mem_append, hlines]
  exact ⟨fun h => h.2.1.2, fun h => ⟨hfixed.1, ⟨hfixed.2.1, h⟩, hfixed.2.2⟩⟩

theorem newline_not_mem_parameterLines_iff :
    (∀ line ∈ parameterLines ps, '\n' ∉ line) ↔ ∀ q ∈ ps, '\n' ∉ q.1.toList :=
  List.forall_mem_map.trans
    (forall₂_congr fun q hq => not_congr (newline_mem_parameterDoc_iff (hps q hq)))

theorem length_splitOn_optionsDoc_eq_iff :
    ((optionsDoc ps).toList.splitOn '\n').length = ps.length + 4 ↔
      ∀ q ∈ ps, '\n' ∉ q.1.toList := by
  rw [length_splitOn_optionsDoc, Nat.add_eq_left, List.count_eq_zero, List.mem_flatten,
    ← newline_not_mem_parameterLines_iff hps]
  simp only [not_exists, not_and]

/-- **One line for each property,** if no name has several. -/
theorem splitOn_optionsDoc (hnames : ∀ q ∈ ps, '\n' ∉ q.1.toList) :
    (optionsDoc ps).toList.splitOn '\n' = docOpening ++ parameterLines ps ++ [" */".toList] := by
  have hopening : ∀ line ∈ docOpening, '\n' ∉ line := by decide
  have hlines := (newline_not_mem_parameterLines_iff hps).2 hnames
  rw [toList_optionsDoc]
  refine List.splitOn_intercalate '\n' (fun line hline => ?_) (by simp)
  rcases List.mem_append.1 hline with hline | hline
  · exact (List.mem_append.1 hline).elim (hopening line) (hlines line)
  · rw [List.mem_singleton.1 hline]
    decide

end Documentation

/-- What the file of a component holds behind the documentation. -/
def constructorCode (name : String) (ps : List Property) : String :=
  "\n" ++ "var " ++ name ++ " = function(options) \x7b\n\tthis.NAME = " ++ quote name ++ ";\n\n"
    ++ initializer ps ++ "\n\x7d;\n\n" ++ inheritStatement name "Component" ++ "\n\n"
    ++ exportStatement name ++ "\n"

theorem componentModule_eq (runtime name : String) (ps : List Property) :
    componentModule runtime name ps
      = importBlock [Import.named "Component" runtime, Import.named "Helper" runtime] ++ "\n\n"
        ++ (optionsDoc ps ++ constructorCode name ps) := by
  unfold componentModule constructorCode
  simp only [← String.append_assoc]

theorem forall₂_parameterLines (ps : List Property) :
    List.Forall₂ (fun q line => parameterFront q.2.kindName ++ q.1.toList <+: line) ps
      (parameterLines ps) := by
  rw [parameterLines, List.forall₂_map_right_iff, List.forall₂_same]
  intro q _
  rw [toList_parameterDoc, ← List.append_assoc]
  exact List.prefix_append _ _

/-- **The documentation of the properties of a description.** It starts and ends like a comment. It
is closed only at its end, so that the code of the constructor stands behind it, exactly if no name
and no text among the defaults holds a star before a slash. Besides the four fixed lines it has one
for each property exactly if no name holds a line feed, and these lines then start with the kinds
and the names of the properties. -/
theorem optionsDoc_closes_once {source : String} {p : Program}
    (h : parseDescription (scan source).tokens = .ok p) {ps : List Property}
    (hps : ps ∈ p.propertyLists) :
    "/*".toList <+: (optionsDoc ps).toList ∧ "*/".toList <:+ (optionsDoc ps).toList ∧
    (closings (optionsDoc ps).toList = 1 ↔ ∀ q ∈ ps, KeepsComment q) ∧
    (((optionsDoc ps).toList.splitOn '\n').length = ps.length + 4 ↔
      ∀ q ∈ ps, '\n' ∉ q.1.toList) ∧
    ((∀ q ∈ ps, '\n' ∉ q.1.toList) → ∃ lines,
      (optionsDoc ps).toList.splitOn '\n' = docOpening ++ lines ++ [" */".toList] ∧
        List.Forall₂ (fun q line => parameterFront q.2.kindName ++ q.1.toList <+: line) ps lines) ∧
    ∀ runtime name,
      componentModule runtime name ps
        = importBlock [Import.named "Component" runtime, Import.named "Helper" runtime] ++ "\n\n"
          ++ (optionsDoc ps ++ constructorCode name ps) ∧
      (behindComment ((optionsDoc ps ++ constructorCode name ps).toList.drop 2)
        = some (constructorCode name ps).toList ↔ ∀ q ∈ ps, KeepsComment q) := by
  have hspelled := wellSpelled_of_parseDescription h hps
  have hcomment := toList_optionsDoc_eq_comment ps
  refine ⟨?_, ?_, ?_, length_splitOn_optionsDoc_eq_iff hspelled, fun hnames => ?_,
    fun runtime name => ⟨componentModule_eq runtime name ps, ?_⟩⟩
  · exact ⟨docInside ps ++ ['*', '/'], hcomment.symm⟩
  · exact ⟨'/' :: '*' :: docInside ps, hcomment.symm⟩
  · rw [closings_optionsDoc, Nat.add_eq_right, closings_docInside_eq_zero_iff hspelled]
  · exact ⟨_, splitOn_optionsDoc hspelled hnames, forall₂_parameterLines ps⟩
  · have hbehind : (optionsDoc ps ++ constructorCode name ps).toList.drop 2
        = docInside ps ++ '*' :: '/' :: (constructorCode name ps).toList := by
      rw [String.toList_append, hcomment]
      simp
    rw [hbehind, behindComment_eq_iff, closings_docInside_eq_zero_iff hspelled]

/-- A description with stars and slashes that nowhere close a comment. -/
def starrySource : String :=
  "project P component C \x7b 'a*': '/\\n*', '/b': -1.5e+3, c: \x7b x: '*/' \x7d \x7d "
    ++ "template T \x7b C \x7b 'a*': '**' \x7d \x7d"

/-- The properties of its component. -/
def starryProperties : List Property :=
  [("a*", .string "/\n*"), ("/b", .number "-1.5e+3"), ("c", .object [("x", .string "*/")])]

theorem exists_of_propertyLists (source : String) (lists : List (List Property))
    (h : (parseDescription (scan source).tokens).toOption.map Program.propertyLists
      = some lists) :
    ∃ p, parseDescription (scan source).tokens = .ok p ∧ p.propertyLists = lists := by
  rcases hparse : parseDescription (scan source).tokens with faults | p
  · rw [hparse] at h
    cases h
  · rw [hparse] at h
    exact ⟨p, rfl, Option.some.inj h⟩

theorem optionsDoc_closes_once_starry :
    (∃ p, parseDescription (scan starrySource).tokens = .ok p ∧
      starryProperties ∈ p.propertyLists) ∧
    (∀ q ∈ starryProperties, KeepsComment q ∧ '\n' ∉ q.1.toList) ∧
    closings (optionsDoc starryProperties).toList = 1 ∧
    ((optionsDoc starryProperties).toList.splitOn '\n').length = 7 ∧
    behindComment ((optionsDoc starryProperties ++ constructorCode "C" starryProperties).toList.drop
      2) = some (constructorCode "C" starryProperties).toList := by
  obtain ⟨p, hp, hlists⟩ := exists_of_propertyLists starrySource
    [starryProperties, [("a*", .string "**")]] (by decide +kernel)
  have hmem : starryProperties ∈ p.propertyLists := by rw [hlists]; exact List.mem_cons_self
  have hkeeps : ∀ q ∈ starryProperties, KeepsComment q := by decide
  have hnames : ∀ q ∈ starryProperties, '\n' ∉ q.1.toList := by decide
  obtain ⟨-, -, honce, hcount, -, hmodule⟩ := optionsDoc_closes_once hp hmem
  exact ⟨⟨p, hp, hmem⟩, fun q hq => ⟨hkeeps q hq, hnames q hq⟩, honce.2 hkeeps, hcount.2 hnames,
    (hmodule "psykick2d" "C").2.2 hkeeps⟩

/-- **A name or a text can close the comment,** and a name can break its lines: what stands behind
the name of the first component is code. -/
theorem optionsDoc_closed_early :
    (∃ p, parseDescription (scan ("project P component A \x7b '*/': 1 \x7d "
        ++ "component B \x7b a: '*/' \x7d component C \x7b 'a\\nb': true \x7d")).tokens = .ok p ∧
      p.propertyLists
        = [[("*/", .number "1")], [("a", .string "*/")], [("a\nb", .boolean true)]]) ∧
    closings (optionsDoc [("*/", .number "1")]).toList = 2 ∧
    (∀ code : List Char,
      behindComment ((optionsDoc [("*/", .number "1")]).toList.drop 2 ++ code)
        = some ("=1]\n */".toList ++ code)) ∧
    closings (optionsDoc [("a", .string "*/")]).toList = 2 ∧
    (optionsDoc [("a\nb", .boolean true)]).toList.splitOn '\n'
      = docOpening ++ [" * @param \x7bboolean\x7d [options.a".toList, "b=true]".toList]
        ++ [" */".toList] := by
  refine ⟨exists_of_propertyLists _ _ (by decide +kernel), by decide +kernel, fun code => ?_,
    by decide +kernel, by decide +kernel⟩
  rfl

end EntityForge
