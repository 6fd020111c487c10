import EntityForge.Proofs.Naming.Shape
import EntityForge.Proofs.Save.Places

/-! # Folders of artifacts

The file of a component or a system is called after a word, so its name is an entry of one
directory. Wherever the root leads to, the file stays directly in its folder.

* `LiesIn`: a file directly in a folder. `liesIn_of_compileSource`: those of a source text.
* `fileName_is_kebab`: the names of a source text, as files. -/

namespace EntityForge

open Text

/-- **A file directly in a folder,** called after a word. Below any root and in any store, its path
leads to an entry of the directory that the folder's path leads to. -/
structure LiesIn (folder : String) (a : Artifact) : Prop where
  word : a.name.toList ∈ wordPattern
  file : a.file = fileName a.name "js"
  path : segments a.outputPath = [folder, a.file]
  entry : IsEntryName a.file
  stays : ∀ (store : Store) (root : String) (p : Path),
    store.filePlace (joinPath root a.outputPath) = .ok p →
      ∃ q, store.resolve (joinPath root folder) = .ok q ∧ store.find? q = some .directory ∧
        p = q ++ [.text a.file]

theorem exists_place_in_folder {folder : String} {a : Artifact} (hfolder : a.folder = [folder])
    (hfile : IsScriptFile a.file) {store : Store} {root : String} {p : Path}
    (h : store.filePlace (joinPath root a.outputPath) = .ok p) :
    ∃ q, store.resolve (joinPath root folder) = .ok q ∧ store.find? q = some .directory ∧
      p = q ++ [.text a.file] := by
  have hplain : '/' ∉ folder.toList ∧ Char.ofNat 0 ∉ folder.toList ∧ folder ≠ "" := by
    unfold Artifact.folder at hfolder
    split at hfolder
    · cases hfolder
      decide
    · cases hfolder
      decide
    · cases hfolder
  obtain ⟨hslash, hnul, hempty⟩ := hplain
  have hrelative := isAbsolute_of_not_mem hslash
  have houtput := Artifact.isAbsolute_outputPath hfile
  unfold Store.filePlace at h
  split_ifs at h with hpath hnone
  rw [Store.origin_joinPath store root houtput, Artifact.segments_below hfile, hfolder] at h
  rcases htarget : store.target (store.origin root) (rootSegments root ++ [folder] ++ [a.file])
    with e | _ | r
  · rw [htarget] at h
    cases h
  · rw [htarget] at h
    cases h
  · rw [htarget] at h
    cases h
    obtain ⟨q, hwalk, hdirectory, hr⟩ := Store.target_concat_eq_ok_iff.1 htarget
    rw [if_neg (not_or.2 hfile.isEntryName.2)] at hr
    have hroot : Char.ofNat 0 ∉ root.toList :=
      ((nul_not_mem_joinPath_iff root houtput).1 (by simpa using hpath)).1
    have hfree := (nul_not_mem_joinPath_iff root hrelative).2 ⟨hroot, hnul⟩
    refine ⟨q, ?_, hdirectory, Option.some.inj hr⟩
    rw [Store.resolve, if_neg (by simpa using hfree), if_neg (joinPath_ne_empty root hempty),
      Store.origin_joinPath store root hrelative, segments_joinPath_of_not_mem root hslash, hwalk]

theorem liesIn_of_folder {folder : String} {a : Artifact} (hfolder : a.folder = [folder])
    (hword : a.name.toList ∈ wordPattern) (hname : a.file = fileName a.name "js") :
    LiesIn folder a := by
  have hfile : IsScriptFile a.file :=
    hname ▸ isScriptFile_scriptFile (isWordChar_of_mem_wordPattern hword)
  have hpath := Artifact.segments_outputPath hfile
  rw [hfolder] at hpath
  exact ⟨hword, hname, hpath, hfile.isEntryName, fun _ _ _ h =>
    exists_place_in_folder hfolder hfile h⟩

/-- **The files of components and systems** lie in their folders. -/
theorem liesIn_of_compileSource {config : Config} {source : String} {output : Output}
    (h : (compileSource config source).outcome = .ok output) :
    (∀ a ∈ output.components, LiesIn "components" a) ∧
      ∀ a ∈ output.systems, LiesIn "systems" a := by
  obtain ⟨p, hread, hcompile⟩ := outcome_compileSource_eq_ok_iff.1 h
  have hwords := mem_wordPattern_of_readProgram hread
  obtain ⟨hcomponents, hsystems, -⟩ := artifacts_of_compile hcompile
  constructor
  · intro a ha
    rw [hcomponents] at ha
    obtain ⟨c, hc, rfl⟩ := List.mem_map.1 ha
    have hname : c.name.val ∈ p.filedNames :=
      List.mem_append_left _ (List.mem_append_left _ (List.mem_map_of_mem hc))
    exact liesIn_of_folder rfl (hwords _ hname) rfl
  · intro a ha
    obtain ⟨s, hs, base, required, rfl⟩ := hsystems a ha
    have hname : s.name.val ∈ p.filedNames :=
      List.mem_append_left _ (List.mem_append_right _ (List.mem_map_of_mem hs))
    exact liesIn_of_folder rfl (hwords _ hname) rfl

/-- **File names are kebab-case names that keep every letter.** The file of a word is called by a
name of that shape, which spells what is left of the word without "component" and then "system", or
the whole word if nothing is left. The names that files are called after are words, so the files of
components and systems lie directly in their folders. -/
theorem fileName_is_kebab :
    (∀ name : String, name.toList ∈ wordPattern → ∃ k once twice : List Char,
      fileName name "js" = String.ofList k ++ ".js" ∧ IsKebab k ∧
      (∀ cs, Leaves "component".toList name.toList cs ↔ cs = once) ∧
      (∀ cs, Leaves "system".toList once cs ↔ cs = twice) ∧
      Hyphenates (if twice = [] then name.toList else twice) k) ∧
    (∀ source p, readProgram source = .ok p →
      ∀ name ∈ p.filedNames, name.toList ∈ wordPattern) ∧
    ∀ config source output, (compileSource config source).outcome = .ok output →
      (∀ a ∈ output.components, LiesIn "components" a) ∧
        ∀ a ∈ output.systems, LiesIn "systems" a := by
  refine ⟨fun name hname => ?_, fun _ _ => mem_wordPattern_of_readProgram,
    fun _ _ _ => liesIn_of_compileSource⟩
  have honce : ∀ cs, Leaves "component".toList name.toList cs ↔
      cs = stripWord "component" name.toList := fun cs => leaves_iff (by decide)
  have htwice : ∀ cs, Leaves "system".toList (stripWord "component" name.toList) cs ↔
      cs = stripWord "system" (stripWord "component" name.toList) :=
    fun cs => leaves_iff (by decide)
  have hstem := stem_eq_of_leaves ((honce _).2 rfl) ((htwice _).2 rfl)
  have hchars : ∀ c ∈ stem name.toList, isWordChar c = true := fun c hc =>
    isWordChar_of_mem_wordPattern hname c (stem_subset _ hc)
  have hne : name.toList ≠ [] := by
    obtain ⟨c, cs, -, -, hcs⟩ := mem_wordPattern.1 hname
    simp [hcs]
  refine ⟨hyphenated (stem name.toList), _, _, ?_, isKebab_hyphenated hchars (stem_ne_nil hne),
    honce, htwice, ?_⟩
  · rw [fileName, String.append_assoc]
    rfl
  · rw [← hstem]
    exact hyphenates_hyphenated hchars

/-- A word that holds "system" only once "component" is out, and the files of a source text. -/
theorem fileName_is_kebab_hidden :
    "SysCOMPONENTtemHTTPClient2Body".toList ∈ wordPattern ∧
    fileName "SysCOMPONENTtemHTTPClient2Body" "js" = "http-client2-body.js" ∧
    IsKebab "http-client2-body".toList ∧
    Hyphenates "HTTPClient2Body".toList "http-client2-body".toList ∧
    (∃ p, readProgram roomySource = .ok p ∧ p.filedNames = ["Move", "MoveSystem", "Move"] ∧
      ∀ name ∈ p.filedNames, name.toList ∈ wordPattern) ∧
    ∃ output, (compileSource {} roomySource).outcome = .ok output ∧
      (∃ a ∈ output.components, a.name = "Move" ∧ LiesIn "components" a) ∧
        ∃ a ∈ output.systems, a.name = "MoveSystem" ∧ LiesIn "systems" a := by
  obtain ⟨hwords, hnames, hfiles⟩ := fileName_is_kebab
  have hword : "SysCOMPONENTtemHTTPClient2Body".toList ∈ wordPattern :=
    mem_wordPattern.2 ⟨'S', _, by decide, List.all_eq_true.1 (by decide +kernel), rfl⟩
  have hvalue : fileName "SysCOMPONENTtemHTTPClient2Body" "js" = "http-client2-body.js" := by
    decide +kernel
  obtain ⟨k, once, twice, hk, hkebab, honce, htwice, hhyphenates⟩ := hwords _ hword
  obtain rfl : "SystemHTTPClient2Body".toList = once :=
    (honce _).1 ((leaves_iff (by decide)).2 (by decide +kernel))
  obtain rfl : "HTTPClient2Body".toList = twice :=
    (htwice _).1 ((leaves_iff (by decide)).2 (by decide +kernel))
  obtain rfl : k = "http-client2-body".toList := by
    have hchars := congrArg String.toList (hk.symm.trans hvalue)
    rw [String.toList_append, String.toList_ofList] at hchars
    exact List.append_cancel_right (hchars.trans (by decide : _ = _ ++ ".js".toList))
  obtain ⟨output, houtput, hmade⟩ : ∃ output, (compileSource {} roomySource).outcome = .ok output ∧
      (output.components.map Artifact.name, output.systems.map Artifact.name)
        = (["Move"], ["MoveSystem"]) :=
    Run.exists_ok_of_map_eq (by decide +kernel)
  obtain ⟨p, hread, -⟩ := outcome_compileSource_eq_ok_iff.1 houtput
  have hfiled : p.filedNames = ["Move", "MoveSystem", "Move"] := by
    have hmap : (readProgram roomySource).toOption.map Program.filedNames
        = some ["Move", "MoveSystem", "Move"] := by decide +kernel
    rw [hread] at hmap
    exact Option.some.inj hmap
  obtain ⟨hcomponents, hsystems⟩ := hfiles {} roomySource output houtput
  obtain ⟨hmoves, hsystem⟩ := Prod.mk.inj hmade
  obtain ⟨a, ha, haname⟩ := List.mem_map.1 (hmoves ▸ List.mem_singleton.2 rfl)
  obtain ⟨b, hb, hbname⟩ := List.mem_map.1 (hsystem ▸ List.mem_singleton.2 rfl)
  exact ⟨hword, hvalue, hkebab, hhyphenates, ⟨p, hread, hfiled, hnames _ p hread⟩, output, houtput,
    ⟨a, ha, haname, hcomponents a ha⟩, b, hb, hbname, hsystems b hb⟩

end EntityForge
