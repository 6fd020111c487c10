import EntityForge.Script.Statement
import EntityForge.Proofs.Script.NestedLines

/-! # The variables of a file

A generated file binds variables in two places: one statement at its start requires modules, a
variable on each line, and the last line that starts with `var` declares the class or the factory.
(A line of documentation may start so, too, but it stands before that one.) Both are read off the
text of the file. A variable that is bound twice stands for what it was bound to last.

* `bindingOf?`: the binding on a line.
* `requiredIn`, `declaredIn`, `bindings`: the bindings of a file.
* `standsFor`: what a variable of a file stands for.
* `requiredIn_of_imports`, `IsLast.declaredIn`: the bindings of imports and of a declaration.
* `standsFor_eq_iff`: when a required name still stands for what was required. -/

namespace EntityForge

open Script

/-! ### Reading bindings -/

/-- Whether a line declares a variable. -/
def declares (line : List Char) : Bool :=
  line.take 4 = "var ".toList

/-- **The binding on a line:** a variable, and what it is bound to up to the sign that ends the
line. -/
def bindingOf? (line : List Char) : Option (String × String) :=
  let name := (line.drop 4).takeWhile (· ≠ ' ')
  let value := (line.drop 4).drop name.length
  if (declares line || line.take 4 = "    ".toList) && value.take 3 = " = ".toList then
    some (.ofList name, .ofList (value.drop 3).dropLast)
  else none

/-- Whether a binding is that of a required module. -/
def requires (binding : String × String) : Bool :=
  "require(".toList.isPrefixOf binding.2.toList

/-- **The modules that a file requires,** on its lines up to the first empty one. -/
def requiredIn (file : String) : List (String × String) :=
  (((file.toList.splitOn '\n').takeWhile (· ≠ [])).filterMap bindingOf?).filter requires

/-- **The variable that a file declares,** on the last line that does so. -/
def declaredIn (file : String) : Option (String × String) :=
  ((file.toList.splitOn '\n').filter declares).getLast?.bind bindingOf?

/-- **The variables that a file binds,** in their order, and what they are bound to. -/
def bindings (file : String) : List (String × String) :=
  requiredIn file ++ (declaredIn file).toList

/-- **What a variable of a file stands for:** its last binding. -/
def standsFor (file name : String) : Option String :=
  (bindings file).reverse.lookup name

theorem declares_eq_false_of_isInner {line : List Char} (h : IsInner line) :
    declares line = false := by
  rcases line with _ | ⟨c, line⟩
  · decide
  · have hc : c ≠ 'v' := by
      rintro rfl
      exact absurd (isInner_cons.1 h) (by decide)
    simp [declares, hc]

theorem bindingOf?_eq_none_of_isInner {line : List Char} (h : IsInner line) :
    bindingOf? line = none := by
  have hblanks : line.take 4 ≠ "    ".toList := by
    rcases line with _ | ⟨c, line⟩
    · decide
    · have hc : c ≠ ' ' := by
        rintro rfl
        exact absurd (isInner_cons.1 h) (by decide)
      simp [hc]
  rw [bindingOf?, declares_eq_false_of_isInner h, decide_eq_false hblanks]
  rfl

/-- The two ways in which a line with a binding starts. -/
def IsOpening (opening : List Char) : Prop :=
  opening = "var ".toList ∨ opening = "    ".toList

theorem IsOpening.length {opening : List Char} (h : IsOpening opening) : opening.length = 4 := by
  rcases h with rfl | rfl <;> rfl

theorem bindingOf?_line {opening name : List Char} (h : IsOpening opening) (hname : ' ' ∉ name)
    (value : List Char) (sign : Char) :
    bindingOf? (opening ++ name ++ " = ".toList ++ value ++ [sign])
      = some (.ofList name, .ofList value) := by
  have htake : (opening ++ name ++ " = ".toList ++ value ++ [sign]).take 4 = opening := by
    simp only [List.append_assoc]
    rw [← h.length, List.take_left]
  have hdrop : (opening ++ name ++ " = ".toList ++ value ++ [sign]).drop 4
      = name ++ (" = ".toList ++ value ++ [sign]) := by
    simp only [List.append_assoc]
    rw [← h.length, List.drop_left]
  have hread : (name ++ (" = ".toList ++ value ++ [sign])).takeWhile (· ≠ ' ') = name := by
    rw [List.takeWhile_append_of_pos]
    · simp
    · intro c hc
      exact decide_eq_true fun heq => hname (heq ▸ hc)
  have hopens : (declares (opening ++ name ++ " = ".toList ++ value ++ [sign])
      || decide ((opening ++ name ++ " = ".toList ++ value ++ [sign]).take 4 = "    ".toList))
      = true := by
    rw [declares, htake, Bool.or_eq_true, decide_eq_true_eq, decide_eq_true_eq]
    exact h
  unfold bindingOf?
  dsimp only
  rw [hopens, hdrop, hread, List.drop_left]
  simp

/-! ### Required modules -/

/-- The binding of an import. -/
def Script.Import.binding (i : Import) : String × String :=
  (i.name, "require(" ++ quote i.path ++ ")" ++ i.exported.elim "" ("." ++ ·))

/-- A name of word characters. -/
def IsWord (name : String) : Prop :=
  ∀ c ∈ name.toList, isWordChar c = true

theorem isWord_of_all {name : String} (h : name.toList.all isWordChar = true) : IsWord name :=
  List.all_eq_true.1 h

theorem IsWord.not_mem {name : String} (h : IsWord name) {c : Char} (hc : isWordChar c = false) :
    c ∉ name.toList := by
  intro hmem
  rw [h c hmem] at hc
  cases hc

theorem IsWord.newline_not_mem {name : String} (h : IsWord name) : '\n' ∉ name.toList :=
  h.not_mem (by decide)

theorem IsWord.blank_not_mem {name : String} (h : IsWord name) : ' ' ∉ name.toList :=
  h.not_mem (by decide)

/-- An import of words. -/
structure Script.Import.IsPlain (i : Import) : Prop where
  name : IsWord i.name
  exported : ∀ exported ∈ i.exported, IsWord exported

theorem Script.Import.toList_render (i : Import) :
    i.render.toList = i.name.toList ++ " = ".toList ++ i.binding.2.toList := by
  unfold render binding
  rcases i.exported with _ | exported <;> simp

section Line
variable {i : Import} (h : i.IsPlain) {opening : List Char} (hopening : IsOpening opening)
include h hopening

theorem Script.Import.IsPlain.newline_not_mem_line {sign : Char} (hsign : sign ≠ '\n') :
    '\n' ∉ opening ++ i.render.toList ++ [sign] := by
  have hopens : '\n' ∉ opening := by
    rcases hopening with rfl | rfl <;> decide
  have hexported : '\n' ∉ (i.exported.elim "" ("." ++ ·)).toList := by
    rcases hi : i.exported with _ | exported
    · simp
    · simpa using (h.exported exported hi).newline_not_mem
  rw [toList_render, binding]
  simp only [String.toList_append, List.mem_append, List.mem_singleton, not_or]
  exact ⟨⟨hopens, ⟨h.name.newline_not_mem, by decide⟩,
    ⟨⟨by decide, newline_not_mem_quote _⟩, by decide⟩, hexported⟩, hsign.symm⟩

theorem Script.Import.IsPlain.bindingOf?_line (sign : Char) :
    bindingOf? (opening ++ i.render.toList ++ [sign]) = some i.binding := by
  have hread := EntityForge.bindingOf?_line hopening h.name.blank_not_mem
    i.binding.2.toList sign
  rw [toList_render, ← List.append_assoc, ← List.append_assoc, hread, String.ofList_toList,
    String.ofList_toList]
  rfl

end Line

/-- The imports in one statement, behind its first four characters. -/
def importList (imports : List Import) : List Char :=
  (",\n    ".intercalate (imports.map Import.render) ++ ";").toList

theorem importList_singleton (i : Import) : importList [i] = i.render.toList ++ [';'] := by
  simp [importList]

theorem importList_cons_cons (i j : Import) (rest : List Import) :
    importList (i :: j :: rest)
      = i.render.toList ++ [','] ++ '\n' :: ("    ".toList ++ importList (j :: rest)) := by
  simp [importList, String.intercalate_cons_cons]

/-- **The lines of a statement that requires modules,** one for each of them. -/
theorem lines_importList {imports : List Import} (hne : imports ≠ [])
    (h : ∀ i ∈ imports, i.IsPlain) {opening : List Char} (hopening : IsOpening opening) :
    (∀ line ∈ (opening ++ importList imports).splitOn '\n', line ≠ []) ∧
    ((opening ++ importList imports).splitOn '\n').filterMap bindingOf?
      = imports.map Import.binding := by
  induction imports generalizing opening with
  | nil => exact absurd rfl hne
  | cons i rest ih =>
    obtain ⟨hi, hrest⟩ := List.forall_mem_cons.1 h
    rcases rest with _ | ⟨j, rest⟩
    · have hline : '\n' ∉ opening ++ i.render.toList ++ [';'] :=
        hi.newline_not_mem_line hopening (by decide)
      rw [importList_singleton, ← List.append_assoc, List.splitOn_eq_singleton hline]
      refine ⟨List.forall_mem_singleton.2 (by simp), ?_⟩
      rw [List.filterMap_cons_some (hi.bindingOf?_line hopening ';')]
      rfl
    · have hline : '\n' ∉ opening ++ i.render.toList ++ [','] :=
        hi.newline_not_mem_line hopening (by decide)
      have hblanks : IsOpening "    ".toList := .inr rfl
      obtain ⟨hnext, hbindings⟩ := ih (by simp) hrest hblanks
      rw [importList_cons_cons, ← List.append_assoc, ← List.append_assoc,
        List.splitOn_append_cons_self, List.splitOn_eq_singleton hline]
      refine ⟨List.forall_mem_append.2 ⟨List.forall_mem_singleton.2 (by simp), hnext⟩, ?_⟩
      rw [List.singleton_append, List.filterMap_cons_some (hi.bindingOf?_line hopening ','),
        hbindings]
      rfl

/-! ### Whole files -/

theorem requiredIn_of_imports {file : String} {imports : List Import} (hne : imports ≠ [])
    (h : ∀ i ∈ imports, i.IsPlain) {rest : List Char}
    (hfile : file.toList = (importBlock imports).toList ++ '\n' :: '\n' :: rest) :
    requiredIn file = imports.map Import.binding := by
  have hvar : IsOpening "var ".toList := .inl rfl
  obtain ⟨hlines, hbindings⟩ := lines_importList hne h hvar
  have hblock : (importBlock imports).toList = "var ".toList ++ importList imports := by
    simp [importBlock, importList]
  have hfirst : (file.toList.splitOn '\n').takeWhile (· ≠ [])
      = ("var ".toList ++ importList imports).splitOn '\n' := by
    have hgap : ('\n' :: rest).splitOn '\n' = [] :: rest.splitOn '\n' := by
      rw [← List.nil_append ('\n' :: rest), List.splitOn_append_cons_self]
      rfl
    rw [hfile, hblock, List.splitOn_append_cons_self, hgap,
      List.takeWhile_append_of_pos fun line hline => decide_eq_true (hlines line hline)]
    simp
  have hall : ∀ b ∈ imports.map Import.binding, requires b = true := by
    refine List.forall_mem_map.2 fun i _ => List.isPrefixOf_iff_prefix.2 ?_
    simp only [Import.binding, String.toList_append, List.append_assoc]
    exact List.prefix_append _ _
  rw [requiredIn, hfirst, hbindings, List.filter_eq_self.2 hall]

/-- The line that declares a variable. -/
def declarationLine (name value : String) (sign : Char) : List Char :=
  ("var " ++ name ++ " = " ++ value).toList ++ [sign]

/-- A declaration and the lines behind it. -/
def declaration (name value : String) (sign : Char) (lines : List (List Char)) : List Char :=
  declarationLine name value sign ++ lines.flatMap ('\n' :: ·)

/-- **A declaration with no other behind it.** -/
structure IsLast (name value : String) (sign : Char) (lines : List (List Char)) : Prop where
  isWord : IsWord name
  newline : '\n' ∉ value.toList ++ [sign]
  undeclared : ∀ line ∈ lines.flatMap (List.splitOn '\n'), declares line = false

section Declaration
variable {name value : String} {sign : Char} {lines : List (List Char)}

theorem bindingOf?_declarationLine (hname : IsWord name) :
    bindingOf? (declarationLine name value sign) = some (name, value) := by
  have hvar : IsOpening "var ".toList := .inl rfl
  have hread := bindingOf?_line hvar hname.blank_not_mem value.toList sign
  simpa [declarationLine] using hread

theorem splitOn_append_lines (a : List Char) (lines : List (List Char)) :
    (a ++ lines.flatMap ('\n' :: ·)).splitOn '\n'
      = a.splitOn '\n' ++ lines.flatMap (List.splitOn '\n') := by
  induction lines generalizing a with
  | nil => simp
  | cons line lines ih =>
    rw [List.flatMap_cons, List.cons_append, List.splitOn_append_cons_self, ih, List.flatMap_cons]

theorem IsLast.splitOn (h : IsLast name value sign lines) :
    (declaration name value sign lines).splitOn '\n'
      = declarationLine name value sign :: lines.flatMap (List.splitOn '\n') := by
  have hline : '\n' ∉ declarationLine name value sign := by
    have hvalue := h.newline
    simp only [List.mem_append, not_or] at hvalue
    simp only [declarationLine, String.toList_append, List.mem_append, not_or]
    exact ⟨⟨⟨⟨by decide, h.isWord.newline_not_mem⟩, by decide⟩, hvalue.1⟩, hvalue.2⟩
  rw [declaration, splitOn_append_lines, List.splitOn_eq_singleton hline]
  rfl

/-- **The variable that is declared last.** -/
theorem IsLast.declaredIn (h : IsLast name value sign lines) {file : String}
    (front : List (List Char)) (hfile : file.toList.splitOn '\n'
      = front ++ (declaration name value sign lines).splitOn '\n') :
    declaredIn file = some (name, value) := by
  have hdeclares : declares (declarationLine name value sign) = true := by
    simp [declares, declarationLine]
  have hnone : (lines.flatMap (List.splitOn '\n')).filter declares = [] :=
    List.filter_eq_nil_iff.2 fun line hline => by simp [h.undeclared line hline]
  rw [EntityForge.declaredIn, hfile, h.splitOn, List.filter_append,
    List.filter_cons_of_pos hdeclares, hnone, List.getLast?_concat, Option.bind_some,
    bindingOf?_declarationLine h.isWord]

/-- **The variables of a file that requires modules:** theirs, and the one declared last. -/
theorem IsLast.bindings (h : IsLast name value sign lines) {file : String} {imports : List Import}
    (hne : imports ≠ []) (hplain : ∀ i ∈ imports, i.IsPlain) {rest : List Char}
    (front : List (List Char)) (hrest : rest.splitOn '\n'
      = front ++ (declaration name value sign lines).splitOn '\n')
    (hfile : file.toList = (importBlock imports).toList ++ '\n' :: '\n' :: rest) :
    bindings file = imports.map Import.binding ++ [(name, value)] := by
  have hlines : file.toList.splitOn '\n' = ((importBlock imports).toList ++ ['\n']).splitOn '\n'
      ++ front ++ (declaration name value sign lines).splitOn '\n' := by
    rw [hfile, List.append_cons, List.splitOn_append_cons_self, hrest, List.append_assoc]
  rw [EntityForge.bindings, requiredIn_of_imports hne hplain hfile, h.declaredIn _ hlines,
    Option.toList_some]

end Declaration

theorem Inside.declares_eq_false {text : List Char} (h : Inside text) :
    ∀ line ∈ text.splitOn '\n', declares line = false := fun line hline =>
  declares_eq_false_of_isInner (h.isInner_of_mem line hline)

/-- The imports of things that the runtime exports. -/
def runtimeImports (runtime : String) (names : List String) : List Import :=
  names.map (Import.named · runtime)

theorem isPlain_runtimeImports {names : List String} (h : ∀ n ∈ names, IsWord n)
    (runtime : String) : ∀ i ∈ runtimeImports runtime names, i.IsPlain :=
  List.forall_mem_map.2 fun n hn =>
    { name := h n hn
      exported := fun _ hexported => Option.some.inj hexported ▸ h n hn }

/-! ### Names that are kept -/

/-- What stands for a thing that the runtime exports. -/
def requiredFrom (runtime name : String) : String :=
  "require(" ++ quote runtime ++ ")." ++ name

theorem binding_named (name runtime : String) :
    (Import.named name runtime).binding = (name, requiredFrom runtime name) := by
  simp [Import.named, Import.binding, requiredFrom, ← String.toList_inj]

/-- **A required name stands for what was required** unless a later variable takes it. -/
theorem standsFor_eq_iff {file runtime : String} {names : List String}
    {others : List (String × String)}
    (hfile : bindings file = (runtimeImports runtime names).map Import.binding ++ others)
    (hothers : ∀ b ∈ others, ∀ n, b.2 ≠ requiredFrom runtime n) {n : String} (hn : n ∈ names) :
    standsFor file n = some (requiredFrom runtime n) ↔ n ∉ others.map Prod.fst := by
  have hrequired : (runtimeImports runtime names).map Import.binding
      = names.map fun n => (n, requiredFrom runtime n) := by
    rw [runtimeImports, List.map_map]
    exact List.map_congr_left fun n _ => binding_named n runtime
  rw [standsFor, hfile, hrequired, List.reverse_append, List.lookup_append, ← List.map_reverse,
    List.lookup_graph _ (List.mem_reverse.2 hn)]
  constructor
  · intro h hmem
    -- The last binding of the name is one of the others, and none of them is what was required.
    obtain ⟨b, hb, rfl⟩ := List.mem_map.1 hmem
    obtain ⟨value, hvalue⟩ : ∃ value, others.reverse.lookup b.1 = some value :=
      Option.isSome_iff_exists.1 (List.lookup_isSome_iff.2 ⟨b, List.mem_reverse.2 hb, by simp⟩)
    obtain ⟨before, after, hsplit, -⟩ := List.lookup_eq_some_iff.1 hvalue
    have hother : (b.1, value) ∈ others := List.mem_reverse.1 (by rw [hsplit]; simp)
    rw [hvalue] at h
    exact hothers _ hother b.1 (Option.some.inj h)
  · intro h
    have hnone : others.reverse.lookup n = none :=
      List.lookup_eq_none_iff.2 fun b hb => bne_iff_ne.2 fun heq =>
        h (List.mem_map.2 ⟨b, List.mem_reverse.1 hb, heq.symm⟩)
    rw [hnone, Option.none_or]

end EntityForge
