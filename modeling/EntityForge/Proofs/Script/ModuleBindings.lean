import EntityForge.Script.FactoryModule
import EntityForge.Proofs.Script.Bindings
import EntityForge.Proofs.Script.Embedding

/-! # The variables of components, systems and the factory

Each of the three kinds of files requires names from the runtime. The file of a component or system
then declares its class; the factory also requires components, and declares itself. No other line of
these files declares a variable: what stands inside a statement is indented, and the name of a
system at the start of a line is followed by a dot.

* `bindings_componentModule`: the variables of a component.
* `isLast_system`, `bindings_systemModule`: those of a system.
* `inside_creatorText`, `bindings_factoryModule`: those of the factory. -/

namespace EntityForge

open Script

theorem isWord_helper : IsWord "Helper" :=
  isWord_of_all (by decide +kernel)

theorem isWord_exportName (base : BaseClass) : IsWord base.exportName := by
  cases base <;> exact isWord_of_all (by decide +kernel)

theorem isWord_factory : IsWord "Factory" :=
  isWord_of_all (by decide +kernel)

/-! ### Components -/

/-- **The variables of a component:** what every component requires, and its class. -/
theorem bindings_componentModule (runtime : String) {name : String} (hname : IsWord name)
    {ps : List Property} (hps : ∀ q ∈ ps, q.2.WellSpelled) :
    bindings (componentModule runtime name ps)
      = (runtimeImports runtime ["Component", "Helper"]).map Import.binding
        ++ [(name, "function(options) ")] := by
  have hlast : IsLast name "function(options) " '\x7b' (constructorLines name ps) :=
    { isWord := hname
      newline := by decide
      undeclared := List.forall_mem_flatMap.2 fun part hpart =>
        (inside_constructorLines hname.newline_not_mem hps part hpart).declares_eq_false }
  have hwords : ∀ n ∈ ["Component", "Helper"], IsWord n := List.forall_mem_cons.2
    ⟨isWord_exportName .component, List.forall_mem_singleton.2 isWord_helper⟩
  refine hlast.bindings (by simp [runtimeImports]) (isPlain_runtimeImports hwords runtime)
    _ (List.splitOn_append_cons_self (optionsDoc ps).toList _) ?_
  rw [componentModule_eq, String.toList_append, String.toList_append, String.toList_append,
    toList_constructorCode]
  simp [runtimeImports, declaration, declarationLine]

/-! ### Systems -/

/-- The lines that close the constructor of a system. -/
def listLines (required : List String) : List (List Char) :=
  [("\tthis.requiredComponents = " ++ (requiredNames required).render 2 ++ ";").toList,
    "\x7d;".toList, []]

/-- The lines that derive a system from its base class. -/
def baseLines (name : String) (base : BaseClass) : List (List Char) :=
  [(inheritStatement name base.exportName).toList, [], (tickMethod name base).toList, []]

/-- The lines that export a name at the end of a file. -/
def exportLines (name : String) : List (List Char) :=
  [(exportStatement name).toList, []]

/-- The lines behind the one that declares a system. -/
def systemLines (name : String) (base : Option BaseClass) (required : List String) :
    List (List Char) :=
  listLines required ++ base.elim [] (baseLines name) ++ exportLines name

/-- A line that starts with a name and a dot declares nothing, even if the name is `var`. -/
theorem declares_eq_false_of_member {name : String} (hname : IsWord name) (rest : List Char) :
    declares (name.toList ++ ".prototype.".toList ++ rest) = false := by
  refine decide_eq_false fun heq => ?_
  have hblank : ' ' ∈ (name.toList ++ (".prototype.".toList ++ rest)).take 4 := by
    rw [← List.append_assoc, heq]
    decide
  rw [List.take_append, List.mem_append] at hblank
  rcases hblank with hmem | hmem
  · exact hname.blank_not_mem (List.mem_of_mem_take hmem)
  · have hfour := List.take_subset_take_left (".prototype.".toList ++ rest)
      (Nat.sub_le 4 name.toList.length) hmem
    have hdot : (".prototype.".toList ++ rest).take 4 = ".pro".toList := by simp
    rw [hdot] at hfour
    exact absurd hfour (by decide)

theorem declares_eq_false_of_tickMethod {name : String} (hname : IsWord name) (base : BaseClass) :
    ∀ line ∈ (tickMethod name base).toList.splitOn '\n', declares line = false := by
  obtain ⟨tick, htick, hcases⟩ : ∃ tick, Tick.ofBase base = tick ∧
      (tick = .ofBase .renderSystem ∨ tick = .ofBase .system) := by
    refine ⟨_, rfl, ?_⟩
    cases base <;> simp [Tick.ofBase]
  have htext : (tickMethod name base).toList
      = ("/**\n * " ++ tick.summary ++ "\n * @param " ++ tick.parameterDoc ++ "\n */").toList
        ++ '\n' :: (name.toList ++ ".prototype.".toList
          ++ (tick.method ++ " = function(" ++ tick.parameter ++ ") \x7b").toList
          ++ '\n' :: ("\tfor (var i = 0, len = this." ++ tick.order
            ++ ".length; i < len; i++) \x7b\n\t\tvar entity = this." ++ tick.order
            ++ "[i];\n\t\x7d\n\x7d;").toList) := by
    unfold tickMethod
    simp [htick]
  have hhead : '\n' ∉ (tick.method ++ " = function(" ++ tick.parameter ++ ") \x7b").toList := by
    rcases hcases with rfl | rfl <;> decide
  have hline : '\n' ∉ name.toList ++ ".prototype.".toList
      ++ (tick.method ++ " = function(" ++ tick.parameter ++ ") \x7b").toList := by
    simp only [List.mem_append, not_or]
    exact ⟨⟨hname.newline_not_mem, by decide⟩, hhead⟩
  rw [htext, List.splitOn_append_cons_self, List.splitOn_append_cons_self,
    List.splitOn_eq_singleton hline]
  refine List.forall_mem_append.2 ⟨?_, List.forall_mem_append.2
    ⟨List.forall_mem_singleton.2 (declares_eq_false_of_member hname _), ?_⟩⟩
  · rcases hcases with rfl | rfl <;> decide +kernel
  · rcases hcases with rfl | rfl <;> decide +kernel

theorem inside_listLines (required : List String) :
    ∀ line ∈ listLines required, Inside line := by
  have hlist : Nested ("\tthis.requiredComponents = " ++ (requiredNames required).render 2
      ++ ";").toList := by
    have hnames := Literal.nested_render (wellSpelled_requiredNames required) 1
    have hclosed := hnames.append (b := [';']) (inside_line (by decide) (by decide))
    simpa using hclosed.append_left (a := "\tthis.requiredComponents = ".toList) (by decide)
  unfold listLines
  simp only [List.forall_mem_cons]
  refine ⟨⟨hlist, ?_⟩, inside_line (by decide) (by decide), inside_nil, by simp⟩
  simp [isInner_cons, opensBinding]

theorem inside_exportLines {name : String} (hname : IsWord name) :
    ∀ line ∈ exportLines name, Inside line := by
  unfold exportLines exportStatement
  simp only [List.forall_mem_cons]
  refine ⟨⟨nested_of_not_mem ?_, ?_⟩, inside_nil, by simp⟩
  · simp [hname.newline_not_mem]
  · simp [isInner_cons, opensBinding]

theorem declares_eq_false_of_baseLines {name : String} (hname : IsWord name) (base : BaseClass) :
    ∀ part ∈ baseLines name base, ∀ line ∈ part.splitOn '\n', declares line = false := by
  have hbase := (isWord_exportName base).newline_not_mem
  have hempty : ∀ line ∈ ([] : List Char).splitOn '\n', declares line = false := by decide
  unfold baseLines inheritStatement
  simp only [List.forall_mem_cons]
  refine ⟨Inside.declares_eq_false ⟨nested_of_not_mem ?_, ?_⟩, hempty,
    declares_eq_false_of_tickMethod hname base, hempty, by simp⟩
  · simp [hname.newline_not_mem, hbase]
  · simp [isInner_cons, opensBinding]

/-- **The class of a system is the last variable that its file declares.** -/
theorem isLast_system {name : String} (hname : IsWord name) (base : Option BaseClass)
    (required : List String) :
    IsLast name "function() " '\x7b' (systemLines name base required) where
  isWord := hname
  newline := by decide
  undeclared := by
    refine List.forall_mem_flatMap.2 (List.forall_mem_append.2 ⟨List.forall_mem_append.2
      ⟨fun part hpart => (inside_listLines required part hpart).declares_eq_false, ?_⟩,
      fun part hpart => (inside_exportLines hname part hpart).declares_eq_false⟩)
    rcases base with _ | base
    · simp
    · exact declares_eq_false_of_baseLines hname base

theorem requiredIn_of_plainSystem {file name : String} (hname : IsWord name)
    {required : List String}
    (hfile : file.toList = declaration name "function() " '\x7b' (systemLines name none required)) :
    requiredIn file = [] := by
  have hlines := (isLast_system hname none required).splitOn
  refine List.filter_eq_nil_iff.2 fun binding hbinding => ?_
  obtain ⟨line, hline, hread⟩ := List.mem_filterMap.1 hbinding
  have hmem := (List.takeWhile_subset _) hline
  rw [hfile, hlines] at hmem
  rcases List.mem_cons.1 hmem with rfl | hmem
  · rw [bindingOf?_declarationLine hname] at hread
    cases hread
    simp [requires]
  · obtain ⟨part, hpart, hmem⟩ := List.mem_flatMap.1 hmem
    have hinside : Inside part := by
      rcases List.mem_append.1 hpart with hpart | hpart
      · exact inside_listLines required part (by simpa [Option.elim] using hpart)
      · exact inside_exportLines hname part hpart
    rw [bindingOf?_eq_none_of_isInner (hinside.isInner_of_mem line hmem)] at hread
    cases hread

/-- The names that a system requires from the runtime. -/
def BaseClass.runtimeNames : Option BaseClass → List String
  | none => []
  | some b => [b.exportName, "Helper"]

/-- **The variables of a system:** its base class, if it has one, and its own class. -/
theorem bindings_systemModule (runtime : String) {name : String} (hname : IsWord name)
    (base : Option BaseClass) {required : List String} (hrequired : required ≠ []) :
    bindings (systemModule runtime name base required)
      = (runtimeImports runtime (BaseClass.runtimeNames base)).map Import.binding
        ++ [(name, "function() ")] := by
  have hlast := isLast_system hname base required
  rcases base with _ | b
  · have hfile : (systemModule runtime name none required).toList
        = declaration name "function() " '\x7b' (systemLines name none required) := by
      rw [systemModule_eq runtime name _ hrequired, systemFront, systemBack]
      simp [declaration, declarationLine, systemLines, listLines, exportLines]
    have hlines : (systemModule runtime name none required).toList.splitOn '\n'
        = [] ++ (declaration name "function() " '\x7b' (systemLines name none required)).splitOn
          '\n' := by
      rw [hfile, List.nil_append]
    rw [bindings, requiredIn_of_plainSystem hname hfile, hlast.declaredIn [] hlines]
    rfl
  · have hwords : ∀ n ∈ [b.exportName, "Helper"], IsWord n := List.forall_mem_cons.2
      ⟨isWord_exportName b, List.forall_mem_singleton.2 isWord_helper⟩
    refine hlast.bindings (by simp [runtimeImports, BaseClass.runtimeNames])
      (isPlain_runtimeImports hwords runtime) [] rfl ?_
    rw [systemModule_eq runtime name _ hrequired, systemFront, systemBack]
    simp [runtimeImports, declaration, declarationLine, systemLines, listLines, baseLines,
      exportLines, BaseClass.runtimeNames]

/-! ### The factory -/

/-- A blueprint of words and of literals that read back. -/
structure Script.Blueprint.IsPlain (entry : Blueprint) : Prop where
  template : IsWord entry.template
  names : ∀ c ∈ entry.components.pairs, IsWord c.1
  properties : ∀ c ∈ entry.components.pairs, ∀ q ∈ c.2, q.2.WellSpelled

theorem inside_addComponent {component : String × List Property} (hname : IsWord component.1)
    (hps : ∀ q ∈ component.2, q.2.WellSpelled) :
    Inside (addComponent component).toList := by
  have hobject := Literal.nested_render (Literal.wellSpelled_object.2 hps) 2
  have hclosed := hobject.append (b := "));".toList) (inside_line (by decide) (by decide))
  have hfront : '\n' ∉ ("\t\tentity.addComponent(new " ++ component.1 ++ "(").toList := by
    simpa using hname.newline_not_mem
  have htext : (addComponent component).toList
      = ("\t\tentity.addComponent(new " ++ component.1 ++ "(").toList
        ++ (((Literal.object component.2).render 3).toList ++ "));".toList) := by
    unfold addComponent
    simp
  rw [htext]
  exact ⟨hclosed.append_left hfront, by simp [isInner_cons, opensBinding]⟩

/-- **The function for a template** stays inside the object of the factory. -/
theorem inside_creatorText {entry : Blueprint} (h : entry.IsPlain) :
    Inside (creatorText entry).toList := by
  have htext : (creatorText entry).toList
      = ("\t" ++ creatorName entry.template ++ ": function() \x7b").toList
        ++ ("\t\tvar entity = World.createEntity();".toList
          :: (entry.components.pairs.map fun c => (addComponent c).toList)
          ++ ["\t\treturn entity;".toList, "\t\x7d".toList]).flatMap ('\n' :: ·) := by
    rw [creatorText, String.toList_intercalate]
    simp [intercalate_newline, Function.comp_def]
  have hfirst : '\n' ∉ ("\t" ++ creatorName entry.template ++ ": function() \x7b").toList := by
    simpa [creatorName] using h.template.newline_not_mem
  rw [htext]
  refine ⟨(nested_of_not_mem hfirst).append_lines ?_, by simp [isInner_cons, opensBinding]⟩
  simp only [List.forall_mem_append, List.forall_mem_cons, List.forall_mem_map]
  exact ⟨⟨inside_line (by decide) (by decide),
      fun c hc => inside_addComponent (h.names c hc) (h.properties c hc)⟩,
    inside_line (by decide) (by decide), inside_line (by decide) (by decide), by simp⟩

theorem inside_creators {entries : List Blueprint} (h : ∀ e ∈ entries, e.IsPlain) :
    Inside (",\n\n".intercalate (entries.map creatorText)).toList := by
  induction entries with
  | nil => exact inside_nil
  | cons e entries ih =>
    obtain ⟨he, hentries⟩ := List.forall_mem_cons.1 h
    rcases entries with _ | ⟨next, entries⟩
    · simpa using inside_creatorText he
    · have htext : (",\n\n".intercalate ((e :: next :: entries).map creatorText)).toList
          = (creatorText e).toList ++ [',']
            ++ [[], (",\n\n".intercalate ((next :: entries).map creatorText)).toList].flatMap
              ('\n' :: ·) := by
        simp [String.intercalate_cons_cons]
      rw [htext]
      exact (inside_creatorText he).append_comma (List.forall_mem_cons.2
        ⟨inside_nil, List.forall_mem_singleton.2 (ih hentries)⟩)

/-- What the factory is bound to on its first line. -/
def objectHead (entries : List Blueprint) : String :=
  if entries = [] then "\x7b\x7d" else ""

/-- The lines behind the one that declares the factory. -/
def factoryLines (entries : List Blueprint) : List (List Char) :=
  (if entries = [] then []
    else [(",\n\n".intercalate (entries.map creatorText)).toList, "\x7d;".toList])
    ++ [] :: exportLines "Factory"

theorem inside_factoryLines {entries : List Blueprint} (h : ∀ e ∈ entries, e.IsPlain) :
    ∀ line ∈ factoryLines entries, Inside line := by
  refine List.forall_mem_append.2 ⟨?_, List.forall_mem_cons.2
    ⟨inside_nil, inside_exportLines isWord_factory⟩⟩
  split_ifs
  · simp
  · exact List.forall_mem_cons.2 ⟨inside_creators h, List.forall_mem_singleton.2
      (inside_line (by decide) (by decide))⟩

/-- **The variables of the factory:** the world, the components, and the factory. -/
theorem bindings_factoryModule (runtime : String) {entries : List Blueprint}
    (hentries : ∀ e ∈ entries, e.IsPlain) {files : Table String String}
    (hplain : ∀ i ∈ factoryImports runtime files, i.IsPlain) :
    bindings (factoryModule runtime entries files)
      = (factoryImports runtime files).map Import.binding ++ [("Factory", objectHead entries)] := by
  have hlast : IsLast "Factory" (objectHead entries) (if entries = [] then ';' else '\x7b')
      (factoryLines entries) :=
    { isWord := isWord_factory
      newline := by
        unfold objectHead
        split_ifs <;> decide
      undeclared := List.forall_mem_flatMap.2 fun part hpart =>
        (inside_factoryLines hentries part hpart).declares_eq_false }
  refine hlast.bindings (by simp [factoryImports]) hplain [] rfl ?_
  unfold factoryModule factoryObject declaration declarationLine objectHead factoryLines
  split_ifs with hnil
  · simp [exportLines]
  · simp [exportLines]

end EntityForge
