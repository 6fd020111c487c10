import EntityForge.Script.SystemModule
import EntityForge.Proofs.Build.Lineage
import EntityForge.Proofs.Script.Documentation
import EntityForge.Proofs.Script.NestedLines

/-! # Literals in generated files

The constructor of a component holds the defaults of its options, and that of a system the names of
the components it requires. Both are put together line by line, each with its own indentation, and
both come to what a literal is written as. So they read back. In the file of a component the
documentation stands before the constructor and may hold any text; but no line of the constructor
starts like the declaration of a variable, so it is what stands behind the last such line.

* `initializer_eq`, `systemModule_eq`: the literals in the two files.
* `FirstUses`, `firstUses_namesOnce`: the names whose options are copied, and their order.
* `Literal.eq_of_render_append`: a literal is told from the text that starts with it.
* `inside_constructorLines`: the constructor stands behind the last declaration of a variable.
* `modules_hold_literals`: the literals in generated files, and that they read back. -/

namespace EntityForge

open Script

/-! ### Options that are copied -/

/-- **Names in the order of their first use,** each of them once. -/
structure FirstUses (names used : List String) : Prop where
  nodup : names.Nodup
  mem_iff : ∀ n, n ∈ names ↔ n ∈ used
  ordered : names.Pairwise fun a b => used.idxOf a < used.idxOf b

theorem firstUses_namesOnce (ps : List Property) :
    FirstUses (namesOnce ps) (ps.map Prod.fst) where
  nodup := nodup_eraseDups _
  mem_iff _ := List.mem_eraseDups
  ordered := pairwise_idxOf_eraseDups _

/-- **How a property is reached,** behind the object it belongs to. -/
def access (name : String) : String :=
  if isBareName name then "." ++ name else "[" ++ quote name ++ "]"

/-- **The line that copies an option,** reached in the same way on both sides. -/
def copyLine (name : String) : String :=
  "\tthis" ++ access name ++ " = options" ++ access name ++ ";"

theorem assignment_eq (name : String) : assignment name = copyLine name := by
  have hmember : ∀ object, member object name = object ++ access name := by
    intro object
    unfold member access
    split_ifs <;> simp only [String.append_assoc]
  rw [assignment, copyLine, hmember, hmember]
  simp only [← String.toList_inj, String.toList_append, List.append_assoc]
  rfl

theorem quote_injective {s t : String} (h : quote s = quote t) : s = t := by
  have hquoted : s.toList.flatMap quoteChar = t.toList.flatMap quoteChar := by
    simpa [quote, ← String.toList_inj] using h
  have hdecoded := congrArg decodeEscapes hquoted
  rw [decodeEscapes_quoted, decodeEscapes_quoted] at hdecoded
  exact String.toList_inj.1 hdecoded

theorem access_injective {m n : String} (h : access m = access n) : m = n := by
  unfold access at h
  split_ifs at h
  · simpa [← String.toList_inj] using h
  · simp [← String.toList_inj] at h
  · simp [← String.toList_inj] at h
  · exact quote_injective (by simpa [← String.toList_inj] using h)

theorem copyLine_injective {m n : String} (h : copyLine m = copyLine n) : m = n := by
  have hchars : (access m).toList ++ (" = options" ++ access m ++ ";").toList
      = (access n).toList ++ (" = options" ++ access n ++ ";").toList := by
    simpa [copyLine, ← String.toList_inj] using h
  have hlength : (access m).toList.length = (access n).toList.length := by
    have hboth := congrArg List.length hchars
    simp only [String.toList_append, List.length_append] at hboth
    omega
  exact access_injective (String.toList_inj.1 (List.append_inj_left hchars hlength))

theorem newline_not_mem_access (name : String) : '\n' ∉ (access name).toList := by
  unfold access
  split_ifs with hbare
  · simpa using newline_not_mem_of_isBareName hbare
  · simpa using newline_not_mem_quote name

theorem newline_not_mem_copyLine (name : String) : '\n' ∉ (copyLine name).toList := by
  simp [copyLine, newline_not_mem_access]

/-! ### The literals of a file -/

/-- The text behind the defaults of a constructor. -/
def copyLines (ps : List Property) : String :=
  if ps = [] then "" else "\n\n" ++ "\n".intercalate ((namesOnce ps).map copyLine)

/-- **The defaults of a constructor** are the literal of its properties. -/
theorem initializer_eq (ps : List Property) : initializer ps
    = "\toptions = Helper.defaults(options, " ++ (Literal.object ps).render 2 ++ ");"
      ++ copyLines ps := by
  rcases ps with _ | ⟨p, ps⟩
  · rfl
  · have hlines : (p :: ps).map defaultLine = Literal.fieldLines 2 (p :: ps) := by
      rw [Literal.fieldLines_eq]
      refine List.map_congr_left fun q _ => ?_
      simp only [defaultLine, String.append_assoc]
      rfl
    have hcopies : (namesOnce (p :: ps)).map assignment = (namesOnce (p :: ps)).map copyLine :=
      List.map_congr_left fun n _ => assignment_eq n
    rw [initializer, if_neg (by simp), hlines, hcopies, Literal.render, copyLines,
      if_neg (by simp)]
    simp [← String.toList_inj, tabs]

/-- The literal of the names that a system requires. -/
def requiredNames (required : List String) : Literal :=
  .array (required.map .string)

theorem requiredList_eq (name : String) {required : List String} (h : required ≠ []) :
    requiredList name required = "var " ++ name ++ " = function() \x7b\n\t"
      ++ "this.requiredComponents = " ++ (requiredNames required).render 2 ++ ";" ++ "\n\x7d;" := by
  obtain ⟨c, cs, rfl⟩ := List.exists_cons_of_ne_nil h
  have hlines : ((c :: cs).map fun c => "\t\t" ++ quote c)
      = Literal.elementLines 2 ((c :: cs).map .string) := by
    rw [Literal.elementLines_eq, List.map_map]
    exact List.map_congr_left fun _ _ => rfl
  rw [requiredList, hlines, requiredNames, List.map_cons, Literal.render]
  simp [← String.toList_inj, tabs]

/-- What stands before the required components in the file of a system. -/
def systemFront (runtime name : String) (base : Option BaseClass) : String :=
  (match base with
    | none => ""
    | some b =>
      importBlock [Import.named b.exportName runtime, Import.named "Helper" runtime] ++ "\n\n")
    ++ "var " ++ name ++ " = function() \x7b\n\t"

/-- What stands behind the required components in the file of a system. -/
def systemBack (name : String) (base : Option BaseClass) : String :=
  "\n\x7d;\n\n"
    ++ (match base with
      | none => ""
      | some b => inheritStatement name b.exportName ++ "\n\n" ++ tickMethod name b ++ "\n\n")
    ++ exportStatement name ++ "\n"

/-- **The required components in the file of a system** are the literal of their names. -/
theorem systemModule_eq (runtime name : String) (base : Option BaseClass) {required : List String}
    (h : required ≠ []) : systemModule runtime name base required
      = systemFront runtime name base ++ "this.requiredComponents = "
        ++ (requiredNames required).render 2 ++ ";" ++ systemBack name base := by
  rcases base with _ | b
  · rw [systemModule, systemSections, requiredList_eq name h, systemFront, systemBack]
    simp [← String.toList_inj, String.intercalate_cons_cons]
  · rw [systemModule, systemSections, requiredList_eq name h, systemFront, systemBack]
    simp [← String.toList_inj, String.intercalate_cons_cons]

/-! ### Reading a literal off the front of a text -/

/-- A character that is not part of any literal, and no gap either. -/
def EndsLiteral (c : Char) : Prop :=
  isLiteralChar c = false ∧ ∀ rest, ∃ f, Lexeme.first c rest = ⟨[c], .fault f⟩

theorem endsLiteral_parenthesis : EndsLiteral ')' :=
  ⟨by decide, fun _ => ⟨_, rfl⟩⟩

theorem endsLiteral_semicolon : EndsLiteral ';' :=
  ⟨by decide, fun _ => ⟨_, rfl⟩⟩

/-- The tokens at the front of what a text says. -/
def leadingTokens (ms : List Meaning) : List Meaning :=
  ms.takeWhile fun
    | .token _ => true
    | _ => false

theorem leadingTokens_render {v : Literal} (hv : v.WellSpelled) (depth : ℕ) {c : Char}
    (hc : EndsLiteral c) (rest : List Char) :
    leadingTokens (meanings ((v.render depth).toList ++ c :: rest)) = said v.tree.tokens := by
  obtain ⟨f, hfirst⟩ := hc.2 rest
  have hfault : meanings (c :: rest) = .fault f :: meanings rest := by
    have hlexemes : lexemes (c :: rest) = ⟨[c], .fault f⟩ :: lexemes rest :=
      lexemes_append rfl hfirst
    rw [meanings, hlexemes, List.map_cons, List.filter_cons_of_pos (by simp)]
    rfl
  rw [v.spells_render hv depth _ (stopsAt_cons.2 hc.1), hfault, leadingTokens,
    List.takeWhile_append_of_pos, List.takeWhile_cons_of_neg (by simp), List.append_nil]
  intro m hm
  obtain ⟨t, -, rfl⟩ := List.mem_map.1 hm
  rfl

/-- **A literal is told from any text that starts with it,** up to a character that ends it. -/
theorem Literal.eq_of_render_append {v w : Literal} (hv : v.WellSpelled) (hw : w.WellSpelled)
    {depth : ℕ} {c : Char} (hc : EndsLiteral c) {a b : List Char}
    (h : (v.render depth).toList ++ c :: a = (w.render depth).toList ++ c :: b) : v = w := by
  have hsaid : said v.tree.tokens = said w.tree.tokens := by
    rw [← leadingTokens_render hv depth hc a, h, leadingTokens_render hw depth hc b]
  have hvals : v.tree.tokens.map Located.val = w.tree.tokens.map Located.val := by
    have hinj : Function.Injective Meaning.token := fun _ _ heq => Meaning.token.inj heq
    rw [said_eq_map, said_eq_map] at hsaid
    exact hinj.list_map hsaid
  have hread : ∀ u : Literal, literalReader.run u.tree.tokens = .ok u := fun u =>
    run_literalReader_eq_ok_iff.2 ⟨u.tree, rfl, u.literal_tree⟩
  have hboth := runFrom_literalReader_congr hvals (hread v)
  exact Except.ok.inj (hboth.symm.trans (hread w))

/-! ### Whole files -/

theorem toList_copyLines {ps : List Property} (h : ps ≠ []) : (copyLines ps).toList
    = ([] :: (namesOnce ps).map fun n => (copyLine n).toList).flatMap ('\n' :: ·) := by
  have hnames : namesOnce ps ≠ [] := by
    obtain ⟨p, rest, rfl⟩ := List.exists_cons_of_ne_nil h
    exact List.ne_nil_of_mem ((firstUses_namesOnce _).mem_iff p.1 |>.2 List.mem_cons_self)
  obtain ⟨n, rest, hcons⟩ := List.exists_cons_of_ne_nil hnames
  rw [copyLines, if_neg h, hcons, String.toList_append, String.toList_intercalate, List.map_map,
    List.map_cons]
  simp [intercalate_newline, Function.comp_def]

theorem inside_initializer {ps : List Property} (hps : ∀ q ∈ ps, q.2.WellSpelled) :
    Inside (initializer ps).toList := by
  have hdefaults : Nested ("\toptions = Helper.defaults(options, "
      ++ (Literal.object ps).render 2 ++ ");").toList := by
    have hobject := Literal.nested_render (Literal.wellSpelled_object.2 hps) 1
    have hclosed := hobject.append (b := [')', ';']) (inside_line (by decide) (by decide))
    simpa using
      hclosed.append_left (a := "\toptions = Helper.defaults(options, ".toList) (by decide)
  have hinner : IsInner (initializer ps).toList := by
    rw [initializer_eq]
    simp [isInner_cons, opensBinding]
  refine ⟨?_, hinner⟩
  rw [initializer_eq, String.toList_append]
  by_cases hnil : ps = []
  · rw [copyLines, if_pos hnil]
    exact hdefaults.append inside_nil
  · rw [toList_copyLines hnil]
    refine hdefaults.append_lines (List.forall_mem_cons.2 ⟨inside_nil, ?_⟩)
    refine List.forall_mem_map.2 fun n _ => ⟨nested_of_not_mem (newline_not_mem_copyLine n), ?_⟩
    simp [copyLine, isInner_cons, opensBinding]

/-- The lines behind the one that declares the constructor. -/
def constructorLines (name : String) (ps : List Property) : List (List Char) :=
  [("\tthis.NAME = " ++ quote name ++ ";").toList, [], (initializer ps).toList, "\x7d;".toList, [],
    (inheritStatement name "Component").toList, [], (exportStatement name).toList, []]

theorem toList_constructorCode (name : String) (ps : List Property) :
    (constructorCode name ps).toList
      = '\n' :: 'v' :: (("ar " ++ name ++ " = function(options) \x7b").toList
        ++ (constructorLines name ps).flatMap ('\n' :: ·)) := by
  unfold constructorCode constructorLines
  simp

/-- **The line that declares the constructor is the last one that binds a variable.** -/
theorem inside_constructorLines {name : String} (hname : '\n' ∉ name.toList)
    {ps : List Property} (hps : ∀ q ∈ ps, q.2.WellSpelled) :
    ∀ line ∈ constructorLines name ps, Inside line := by
  have hlabel : '\n' ∉ ("\tthis.NAME = " ++ quote name ++ ";").toList := by
    simpa using newline_not_mem_quote name
  have hinherit : '\n' ∉ (inheritStatement name "Component").toList := by
    unfold inheritStatement
    simpa using hname
  have hexport : '\n' ∉ (exportStatement name).toList := by
    unfold exportStatement
    simpa using hname
  unfold constructorLines
  simp only [List.forall_mem_cons]
  refine ⟨⟨nested_of_not_mem hlabel, ?_⟩, inside_nil, inside_initializer hps,
    inside_line (by decide) (by decide), inside_nil, ⟨nested_of_not_mem hinherit, ?_⟩, inside_nil,
    ⟨nested_of_not_mem hexport, ?_⟩, inside_nil, by simp⟩
  · simp [isInner_cons, opensBinding]
  · unfold inheritStatement
    simp [isInner_cons, opensBinding]
  · unfold exportStatement
    simp [isInner_cons, opensBinding]

theorem eq_of_constructorCode_eq {name : String} {ps qs : List Property}
    (hps : ∀ q ∈ ps, q.2.WellSpelled) (hqs : ∀ q ∈ qs, q.2.WellSpelled)
    (h : constructorCode name ps = constructorCode name qs) : ps = qs := by
  have htext : ∀ rs : List Property, (constructorCode name rs).toList
      = ("\n" ++ "var " ++ name ++ " = function(options) \x7b\n\tthis.NAME = " ++ quote name
          ++ ";\n\n" ++ "\toptions = Helper.defaults(options, ").toList
        ++ (((Literal.object rs).render 2).toList ++ ')' :: (";" ++ copyLines rs ++ "\n\x7d;\n\n"
          ++ inheritStatement name "Component" ++ "\n\n" ++ exportStatement name
          ++ "\n").toList) := by
    intro rs
    unfold constructorCode
    simp [initializer_eq]
  have hchars := String.toList_inj.2 h
  rw [htext, htext, List.append_cancel_left_eq] at hchars
  exact Literal.object.inj (Literal.eq_of_render_append (Literal.wellSpelled_object.2 hps)
    (Literal.wellSpelled_object.2 hqs) endsLiteral_parenthesis hchars)

/-- **The defaults are told from the file of a component,** whatever its documentation holds. -/
theorem eq_of_componentModule_eq {runtime name : String} (hname : '\n' ∉ name.toList)
    {ps qs : List Property} (hps : ∀ q ∈ ps, q.2.WellSpelled) (hqs : ∀ q ∈ qs, q.2.WellSpelled)
    (h : componentModule runtime name ps = componentModule runtime name qs) : ps = qs := by
  have hfiles : (optionsDoc ps).toList ++ (constructorCode name ps).toList
      = (optionsDoc qs).toList ++ (constructorCode name qs).toList := by
    rw [componentModule_eq, componentModule_eq, String.append_right_inj] at h
    simpa only [← String.toList_inj, String.toList_append] using h
  rw [toList_constructorCode, toList_constructorCode] at hfiles
  have hfirst : Nested ("ar " ++ name ++ " = function(options) \x7b").toList :=
    nested_of_not_mem (by simpa using hname)
  have hrest := eq_of_append_var (hfirst.append_lines (inside_constructorLines hname hps))
    (hfirst.append_lines (inside_constructorLines hname hqs)) hfiles
  have hcode : constructorCode name ps = constructorCode name qs := by
    rw [← String.toList_inj, toList_constructorCode, toList_constructorCode, hrest]
  exact eq_of_constructorCode_eq hps hqs hcode

theorem wellSpelled_requiredNames (required : List String) :
    (requiredNames required).WellSpelled := by
  refine Literal.wellSpelled_array.2 (List.forall_mem_map.2 fun c _ n hn => ?_)
  cases hn

/-- **The required components are told from the file of a system.** -/
theorem eq_of_systemModule_eq {runtime name : String} {base : Option BaseClass}
    {required others : List String} (hrequired : required ≠ []) (hothers : others ≠ [])
    (h : systemModule runtime name base required = systemModule runtime name base others) :
    required = others := by
  rw [systemModule_eq runtime name base hrequired, systemModule_eq runtime name base hothers] at h
  have hchars : ((requiredNames required).render 2).toList ++ ';' :: (systemBack name base).toList
      = ((requiredNames others).render 2).toList ++ ';' :: (systemBack name base).toList := by
    simpa [← String.toList_inj] using h
  have hnames := Literal.eq_of_render_append (wellSpelled_requiredNames required)
    (wellSpelled_requiredNames others) endsLiteral_semicolon hchars
  have hinj : Function.Injective Literal.string := fun _ _ heq => Literal.string.inj heq
  exact hinj.list_map (Literal.array.inj hnames)

/-! ### Both files -/

/-- **A literal reads back** from what is written at some indentation. -/
def ReadsBack (depth : ℕ) (v : Literal) : Prop :=
  (scan (v.render depth)).faults = [] ∧ parseLiteral (scan (v.render depth)).tokens = .ok v

/-- **Generated files hold literals, and these read back.** A constructor of a component merges the
literal of its properties and then copies every option once, in the order in which the options are
first named, one on each line and reached in the same way on both sides. The file of a system holds
the literal of the names that it requires, with nothing around it that depends on them. The
properties of a description, and all names, read back from these literals; and two files of one
component hold the same properties, as two files of one system require the same names. -/
theorem modules_hold_literals :
    (∀ ps : List Property, ∃ names, FirstUses names (ps.map Prod.fst) ∧
      (names.map copyLine).Nodup ∧ (∀ n ∈ names, '\n' ∉ (copyLine n).toList) ∧
      initializer ps
        = "\toptions = Helper.defaults(options, " ++ (Literal.object ps).render 2 ++ ");"
          ++ if ps = [] then "" else "\n\n" ++ "\n".intercalate (names.map copyLine)) ∧
    (∀ (runtime name : String) (base : Option BaseClass) (required : List String), required ≠ [] →
      systemModule runtime name base required
        = systemFront runtime name base ++ "this.requiredComponents = "
          ++ (Literal.array (required.map .string)).render 2 ++ ";" ++ systemBack name base) ∧
    (∀ (source : String) (p : Program), parseDescription (scan source).tokens = .ok p →
      ∀ ps ∈ p.propertyLists, ∀ q ∈ ps, q.2.WellSpelled) ∧
    (∀ ps : List Property, (∀ q ∈ ps, q.2.WellSpelled) → ReadsBack 2 (.object ps) ∧
      ∀ (runtime name : String) (qs : List Property), '\n' ∉ name.toList →
        (∀ q ∈ qs, q.2.WellSpelled) →
        componentModule runtime name ps = componentModule runtime name qs → ps = qs) ∧
    ∀ required : List String, ReadsBack 2 (.array (required.map .string)) ∧
      ∀ (runtime name : String) (base : Option BaseClass) (others : List String), required ≠ [] →
        others ≠ [] →
        systemModule runtime name base required = systemModule runtime name base others →
        required = others := by
  refine ⟨fun ps => ?_, fun runtime name base required h => systemModule_eq runtime name base h,
    fun source p h ps hps => wellSpelled_of_parseDescription h hps,
    fun ps hps => ⟨parseLiteral_scan_render (Literal.wellSpelled_object.2 hps) 2,
      fun runtime name qs hname hqs h => eq_of_componentModule_eq hname hps hqs h⟩,
    fun required => ⟨parseLiteral_scan_render (wellSpelled_requiredNames required) 2,
      fun runtime name base others hrequired hothers h =>
        eq_of_systemModule_eq hrequired hothers h⟩⟩
  have huses := firstUses_namesOnce ps
  have hcopies : Function.Injective copyLine := fun _ _ h => copyLine_injective h
  exact ⟨namesOnce ps, huses, huses.nodup.map hcopies, fun n _ => newline_not_mem_copyLine n,
    initializer_eq ps⟩

/-- Properties whose documentation looks like the end of a comment and a constructor. -/
def masked : List Property :=
  [("x=1]\n */\nvar C = function(options) \x7b", .number "1"), ("it's", .array []),
    ("x=1]\n */\nvar C = function(options) \x7b", .string "\nvar ")]

theorem modules_hold_literals_masked :
    (∀ q ∈ masked, q.2.WellSpelled) ∧ '\n' ∉ "C".toList ∧ ReadsBack 2 (.object masked) ∧
    componentModule "psykick2d" "C" masked ≠ componentModule "psykick2d" "C" masked.reverse ∧
    systemModule "psykick2d" "Chase" none ["Body", "it's"]
      = systemFront "psykick2d" "Chase" none ++ "this.requiredComponents = "
        ++ "[\n\t\t'Body',\n\t\t'it\\'s'\n\t]" ++ ";" ++ systemBack "Chase" none ∧
    systemModule "psykick2d" "Chase" none ["Body", "it's"]
      ≠ systemModule "psykick2d" "Chase" none ["it's", "Body"] ∧
    ∃ p, parseDescription (scan "project P component C \x7b x: -1.5 \x7d").tokens = .ok p ∧
      ∀ ps ∈ p.propertyLists, ∀ q ∈ ps, q.2.WellSpelled := by
  obtain ⟨-, hsystem, hdescription, hcomponent, hrequired⟩ := modules_hold_literals
  have hspelled : ∀ q ∈ masked, q.2.WellSpelled := by decide
  have hreverse : ∀ q ∈ masked.reverse, q.2.WellSpelled := by decide
  obtain ⟨hreads, htold⟩ := hcomponent masked hspelled
  obtain ⟨p, hp, -⟩ := exists_of_propertyLists "project P component C \x7b x: -1.5 \x7d"
    [[("x", .number "-1.5")]] (by decide +kernel)
  have hlist : (Literal.array (["Body", "it's"].map .string)).render 2
      = "[\n\t\t'Body',\n\t\t'it\\'s'\n\t]" := by decide +kernel
  refine ⟨hspelled, by decide, hreads, fun h => ?_, ?_, fun h => ?_, p, hp, hdescription _ p hp⟩
  · exact absurd (htold _ _ _ (by decide) hreverse h) (by decide)
  · rw [← hlist]
    exact hsystem _ _ _ _ (by decide)
  · exact absurd ((hrequired _).2 _ _ _ _ (by decide) (by decide) h) (by decide)

end EntityForge
