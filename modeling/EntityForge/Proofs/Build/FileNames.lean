import EntityForge.Proofs.Token.Tiling
import EntityForge.Proofs.Grammar.Acceptance
import EntityForge.Proofs.Build.Collisions

/-! # The files of a source text

The names in a source text are words, so the files named after them hold neither slashes nor NUL
characters. All files of a compilation are such files, and end in `.js`.

* `mem_wordPattern_of_mem_scan`, `isWordChar_of_mem_scan`: words are spelled like words and hold
  word characters only.
* `namesAreWords_of_readProgram`: so do the names of components and systems.
* `IsScriptFile`, `isScriptFile_scriptFile`: the file of a name.
* `isScriptFile_of_compileSource`: the files of a compilation. -/

namespace EntityForge

open Text

/-! ### Names in a source text -/

theorem mem_wordPattern_of_mem_scan {source : String} {t : Located Token} {w : String}
    (ht : t ∈ (scan source).tokens) (hw : t.val = .word w) : w.toList ∈ wordPattern := by
  obtain ⟨c, cs, hfirst⟩ := exists_first_of_mem_scan ht
  obtain ⟨rest, -, hdescribes⟩ := Lexeme.first_describes c cs
  rw [hfirst, hw] at hdescribes
  obtain ⟨hpattern, htext⟩ := hdescribes
  have htoList : w.toList = (Lexeme.first c cs).text := htext
  rw [htoList]
  exact hpattern

theorem isWordChar_of_mem_scan {source : String} {t : Located Token} {w : String}
    (ht : t ∈ (scan source).tokens) (hw : t.val = .word w) :
    ∀ c ∈ w.toList, isWordChar c = true :=
  isWordChar_of_mem_wordPattern (mem_wordPattern_of_mem_scan ht hw)

/-- A program whose components and systems are named by word characters. -/
structure NamesAreWords (p : Program) : Prop where
  components : ∀ c ∈ p.components, ∀ x ∈ c.name.val.toList, isWordChar x = true
  systems : ∀ s ∈ p.systems, ∀ x ∈ s.name.val.toList, isWordChar x = true

theorem DescriptionTree.token_mem_of_component {d : DescriptionTree} {c : Component}
    (h : c ∈ d.filterMap DeclarationTree.component?) : c.name.token ∈ d.tokens := by
  obtain ⟨tree, htree, hc⟩ := List.mem_filterMap.1 h
  refine List.mem_flatMap.2 ⟨tree, htree, ?_⟩
  cases tree with
  | component keyword tree =>
    cases hc
    simp [DeclarationTree.tokens, ComponentTree.tokens, ComponentTree.component]
  | _ => cases hc

theorem DescriptionTree.token_mem_of_system {d : DescriptionTree} {s : System}
    (h : s ∈ d.filterMap DeclarationTree.system?) : s.name.token ∈ d.tokens := by
  obtain ⟨tree, htree, hs⟩ := List.mem_filterMap.1 h
  refine List.mem_flatMap.2 ⟨tree, htree, ?_⟩
  cases tree with
  | system =>
    cases hs
    simp [DeclarationTree.tokens]
  | _ => cases hs

theorem DescriptionTree.token_mem_of_template {d : DescriptionTree} {t : Template}
    (h : t ∈ d.filterMap DeclarationTree.template?) :
    t.name.token ∈ d.tokens ∧ ∀ c ∈ t.instances, c.name.token ∈ d.tokens := by
  obtain ⟨tree, htree, ht⟩ := List.mem_filterMap.1 h
  cases tree with
  | template keyword name parent opening instances closing =>
    cases ht
    refine ⟨List.mem_flatMap.2 ⟨_, htree, by simp [DeclarationTree.tokens]⟩, fun c hc => ?_⟩
    obtain ⟨i, hi, rfl⟩ := List.mem_map.1 hc
    have hinside : i.component.component.name.token ∈ instances.flatMap InstanceTree.tokens :=
      List.mem_flatMap.2 ⟨i, hi, by
        simp [InstanceTree.tokens, ComponentTree.tokens, ComponentTree.component]⟩
    exact List.mem_flatMap.2 ⟨_, htree, by simp [DeclarationTree.tokens, hinside]⟩
  | _ => cases ht

theorem parseDescription_of_readProgram {source : String} {p : Program}
    (h : readProgram source = .ok p) : parseDescription (scan source).tokens = .ok p := by
  unfold readProgram at h
  dsimp only at h
  split at h
  · cases h
  · split at h
    · next hp => rw [hp, Except.ok.inj h]
    · cases h

theorem namesAreWords_of_readProgram {source : String} {p : Program}
    (h : readProgram source = .ok p) : NamesAreWords p := by
  obtain ⟨d, htokens, name, span, -, rfl⟩ :=
    parseDescription_eq_ok_iff.1 (parseDescription_of_readProgram h)
  exact
    { components := fun c hc => isWordChar_of_mem_scan
        (htokens ▸ DescriptionTree.token_mem_of_component hc) rfl
      systems := fun s hs => isWordChar_of_mem_scan
        (htokens ▸ DescriptionTree.token_mem_of_system hs) rfl }

/-- **Templates and the instances in them are named by words.** -/
theorem isWordChar_of_mem_templates {source : String} {p : Program}
    (h : readProgram source = .ok p) {t : Template} (ht : t ∈ p.templates) :
    (∀ x ∈ t.name.val.toList, isWordChar x = true) ∧
      ∀ c ∈ t.instances, ∀ x ∈ c.name.val.toList, isWordChar x = true := by
  obtain ⟨d, htokens, name, span, -, rfl⟩ :=
    parseDescription_eq_ok_iff.1 (parseDescription_of_readProgram h)
  obtain ⟨hname, hinstances⟩ := DescriptionTree.token_mem_of_template ht
  exact ⟨isWordChar_of_mem_scan (htokens ▸ hname) rfl, fun c hc =>
    isWordChar_of_mem_scan (htokens ▸ hinstances c hc) rfl⟩

/-! ### Files of names -/

/-- **A file that a script can have:** one name, without NUL characters, that ends in `.js`. -/
structure IsScriptFile (file : String) : Prop where
  slash : '/' ∉ file.toList
  nul : Char.ofNat 0 ∉ file.toList
  extension : ".js".toList <:+ file.toList

instance (file : String) : Decidable (IsScriptFile file) :=
  decidable_of_iff ('/' ∉ file.toList ∧ Char.ofNat 0 ∉ file.toList ∧ ".js".toList <:+ file.toList)
    ⟨fun h => ⟨h.1, h.2.1, h.2.2⟩, fun h => ⟨h.slash, h.nul, h.extension⟩⟩

theorem stripFrom_subset (word : List Char) (skip : ℕ) (cs : List Char) :
    stripFrom word skip cs ⊆ cs := by
  fun_induction stripFrom word skip cs with
  | case1 => exact List.Subset.refl _
  | case2 skip c cs ih => exact List.subset_cons_of_subset c ih
  | case3 c cs _ ih => exact List.subset_cons_of_subset c ih
  | case4 c cs _ ih => exact List.cons_subset_cons c ih

theorem stem_subset (name : List Char) : stem name ⊆ name := by
  unfold stem
  dsimp only
  split
  · exact List.Subset.refl name
  · exact List.Subset.trans (stripFrom_subset _ _ _) (stripFrom_subset _ _ _)

theorem toNat_lt_of_isWordChar {c : Char} (h : isWordChar c = true) : c.toNat < 0x80 := by
  have hbound : ∀ high : UInt32, c.val ≤ high → high.toNat < 0x80 → c.toNat < 0x80 :=
    fun high hle hhigh => lt_of_le_of_lt (UInt32.le_iff_toNat_le.1 hle) hhigh
  rcases Bool.or_eq_true_iff.1 h with h | h
  · rcases Bool.or_eq_true_iff.1 h with h | h
    · rcases Bool.or_eq_true_iff.1 h with h | h
      · rcases Bool.or_eq_true_iff.1 h with h | h
        · exact hbound _ (of_decide_eq_true h).2 (by decide)
        · exact hbound _ (of_decide_eq_true (Bool.and_eq_true_iff.1 h).2) (by decide)
      · exact hbound _ (of_decide_eq_true (Bool.and_eq_true_iff.1 h).2) (by decide)
    · rw [of_decide_eq_true h]
      decide
  · rw [of_decide_eq_true h]
    decide

/-- What holds of the word characters of ASCII holds of all. -/
theorem forall_isWordChar {P : Char → Prop}
    (h : ∀ n < 0x80, isWordChar (Char.ofNat n) = true → P (Char.ofNat n)) {c : Char}
    (hc : isWordChar c = true) : P c := by
  have hchar := h c.toNat (toNat_lt_of_isWordChar hc)
  rw [Char.ofNat_toNat] at hchar
  exact hchar hc

theorem isWordChar_toLower {c : Char} (h : isWordChar c = true) : isWordChar c.toLower = true :=
  forall_isWordChar (P := fun c => isWordChar c.toLower = true) (by decide) h

theorem isWordChar_of_mem_lower {c x : Char} (h : isWordChar c = true) (hx : x ∈ lower c) :
    isWordChar x = true := by
  rw [lower, if_pos (toNat_lt_of_isWordChar h), List.mem_singleton] at hx
  rw [hx]
  exact isWordChar_toLower h

theorem isWordChar_of_mem_hyphenatedFrom {before : Option Char} {cs : List Char}
    (h : ∀ c ∈ cs, isWordChar c = true) {x : Char} (hx : x ∈ hyphenatedFrom before cs) :
    isWordChar x = true ∨ x = '-' := by
  induction cs generalizing before with
  | nil => cases hx
  | cons c cs ih =>
    obtain ⟨hc, hcs⟩ := List.forall_mem_cons.1 h
    rw [hyphenatedFrom, List.mem_append] at hx
    rcases hx with hx | hx
    · split_ifs at hx
      · rcases List.mem_append.1 hx with hx | hx
        · exact .inr (List.mem_singleton.1 hx)
        · exact .inl (isWordChar_of_mem_lower hc hx)
      · exact .inl (isWordChar_of_mem_lower hc hx)
      · exact .inl (List.mem_singleton.1 hx ▸ hc)
    · exact ih hcs hx

theorem isScriptFile_scriptFile {name : String} (h : ∀ c ∈ name.toList, isWordChar c = true) :
    IsScriptFile (scriptFile name) := by
  have htoList : (scriptFile name).toList
      = hyphenated (stem name.toList) ++ ".js".toList := by
    simp [scriptFile, fileName]
  have hchar : ∀ x ∈ (scriptFile name).toList, isWordChar x = true ∨ x = '-' ∨ x = '.' := by
    intro x hx
    rw [htoList, List.mem_append] at hx
    rcases hx with hx | hx
    · exact (isWordChar_of_mem_hyphenatedFrom (fun c hc => h c (stem_subset _ hc)) hx).imp_right
        .inl
    · have hend : x = '.' ∨ x = 'j' ∨ x = 's' := by simpa using hx
      rcases hend with rfl | rfl | rfl
      · exact .inr (.inr rfl)
      · exact .inl rfl
      · exact .inl rfl
  have hapart : ∀ x, isWordChar x = false → x ≠ '-' → x ≠ '.' → x ∉ (scriptFile name).toList := by
    intro x hword hhyphen hdot hx
    rcases hchar x hx with hx | hx | hx
    · rw [hword] at hx
      cases hx
    · exact hhyphen hx
    · exact hdot hx
  exact
    { slash := hapart _ (by decide) (by decide) (by decide)
      nul := hapart _ (by decide) (by decide) (by decide)
      extension := by
        rw [htoList]
        exact List.suffix_append _ _ }

/-! ### Files of a compilation -/

/-- **The files of a compilation** are those of its components, of some of its systems, and the
factory. -/
theorem artifacts_of_compile {config : Config} {p : Program} {output : Output}
    (h : (compile config p).outcome = .ok output) :
    output.components = p.components.map (componentArtifact config) ∧
    (∀ a ∈ output.systems, ∃ s ∈ p.systems, ∃ base required,
      a = systemArtifact config s base required) ∧
    ∃ catalog, output.factory = factoryArtifact config catalog := by
  obtain ⟨catalog, hcomponents, -, hsystems, hfactory, -, -⟩ := outcome_compile_eq_ok_iff.1 h
  obtain ⟨hmade, -⟩ := buildComponents_repeats claims_empty hcomponents
  obtain ⟨turns, -, hturns, haccepted, -⟩ := turns_of_buildSystems hsystems
  refine ⟨hmade, fun a ha => ?_, catalog, hfactory⟩
  rw [haccepted] at ha
  obtain ⟨t, ht, rfl⟩ := List.mem_map.1 ha
  exact ⟨t.system, hturns ▸ List.mem_map_of_mem (List.mem_of_mem_filter ht), _, _, rfl⟩

/-- **Every file of a compilation is a script file.** -/
theorem isScriptFile_of_compileSource {config : Config} {source : String} {output : Output}
    (h : (compileSource config source).outcome = .ok output) :
    ∀ a ∈ output.artifacts, IsScriptFile a.file := by
  obtain ⟨p, hread, hcompile⟩ := outcome_compileSource_eq_ok_iff.1 h
  have hwords := namesAreWords_of_readProgram hread
  obtain ⟨hcomponents, hsystems, catalog, hfactory⟩ := artifacts_of_compile hcompile
  intro a ha
  rw [Output.artifacts, List.mem_append, List.mem_append, List.mem_singleton] at ha
  rcases ha with (ha | ha) | rfl
  · rw [hcomponents] at ha
    obtain ⟨c, hc, rfl⟩ := List.mem_map.1 ha
    exact isScriptFile_scriptFile (hwords.components c hc)
  · obtain ⟨s, hs, base, required, rfl⟩ := hsystems a ha
    exact isScriptFile_scriptFile (hwords.systems s hs)
  · rw [hfactory]
    exact (by decide : IsScriptFile "factory.js")

end EntityForge
