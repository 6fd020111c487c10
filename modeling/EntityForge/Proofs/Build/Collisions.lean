import EntityForge.Proofs.Build.Lineage
import EntityForge.Proofs.Build.Turns
import Mathlib.Data.Finset.Card

/-! # Files that collide

Two components whose files have the same name collide, and so do two systems. Two templates of one
name collide as well: they share a function of the factory. A build warns of every file and every
template whose name stood before, and names the first that had it. So the warnings count the names
that are lost, and a build without warnings loses none: every file has a path of its own, and every
function of the factory a name of its own.

* `repeats`: the elements of a list whose key stood before, each with the first that had it.
* `length_repeats_add_card`, `mem_repeats_iff`: how many there are, and which.
* `Claims`, `Claims.claim`: the files that artifacts have claimed, and one claim more.
* `buildComponents_repeats`, `buildTemplates_repeats`, `buildSystems_repeats`: the warnings of each
  phase are its repeats.
* `warnings_compile`: so are those of a compilation, ignored parents apart.
* `TellsCollisions`: texts that tell which artifacts collide. `tellsCollisions_of_compile`: the
  texts of the warnings do.
* `compileSource_tells_collisions`: what the warnings say, and what it means that there are none. -/

namespace EntityForge

/-! ### Repeats -/

section Repeats
variable {α κ : Type} [DecidableEq κ] (key : α → κ)

/-- **The elements whose key stood before,** given the elements before them, each with the first
element that had its key. -/
def repeats : List α → List α → List (α × α)
  | _, [] => []
  | before, x :: xs =>
    (before.find? fun y => key y = key x).toList.map (Prod.mk x) ++ repeats (before ++ [x]) xs

theorem isSome_find?_key_iff (before : List α) (k : κ) :
    (before.find? fun y => key y = k).isSome ↔ k ∈ before.map key := by
  simp [List.find?_isSome]

theorem length_repeats_add_card (before xs : List α) :
    (repeats key before xs).length + ((before ++ xs).map key).toFinset.card
      = xs.length + (before.map key).toFinset.card := by
  induction xs generalizing before with
  | nil => simp [repeats]
  | cons x xs ih =>
    have hnext := ih (before ++ [x])
    have hkeys : ((before ++ [x]).map key).toFinset = insert (key x) (before.map key).toFinset := by
      ext k
      simp
    rw [List.append_assoc, List.singleton_append, hkeys] at hnext
    rw [repeats, List.length_append, List.length_map, List.length_cons]
    have hmem := isSome_find?_key_iff key before (key x)
    rw [← List.mem_toFinset] at hmem
    rcases hfind : before.find? fun y => key y = key x with _ | first
    · have hnew : key x ∉ (before.map key).toFinset := by
        rw [← hmem, hfind]
        exact Bool.false_ne_true
      rw [Finset.card_insert_of_notMem hnew] at hnext
      rw [Option.toList_none, List.length_nil]
      omega
    · have hold : key x ∈ (before.map key).toFinset := by
        rw [← hmem, hfind]
        rfl
      rw [Finset.insert_eq_of_mem hold] at hnext
      rw [Option.toList_some, List.length_singleton]
      omega

theorem mem_repeats_iff {before xs : List α} {x first : α} :
    (x, first) ∈ repeats key before xs ↔ ∃ middle after, xs = middle ++ x :: after ∧
      (before ++ middle).find? (fun y => key y = key x) = some first := by
  induction xs generalizing before with
  | nil => simp [repeats]
  | cons y ys ih =>
    rw [repeats, List.mem_append, ih]
    constructor
    · rintro (h | ⟨middle, after, rfl, hfind⟩)
      · obtain ⟨z, hz, heq⟩ := List.mem_map.1 h
        cases heq
        exact ⟨[], ys, rfl, by simpa using hz⟩
      · exact ⟨y :: middle, after, rfl, by simpa using hfind⟩
    · rintro ⟨middle, after, hsplit, hfind⟩
      cases middle with
      | nil =>
        cases hsplit
        exact .inl (List.mem_map.2 ⟨first, by simpa using hfind, rfl⟩)
      | cons z middle =>
        cases hsplit
        exact .inr ⟨middle, after, rfl, by simpa using hfind⟩

theorem length_repeats_add_distinct (xs : List α) :
    (repeats key [] xs).length + (xs.map key).toFinset.card = xs.length :=
  length_repeats_add_card key [] xs

theorem nodup_of_repeats_eq_nil {xs : List α} (h : repeats key [] xs = []) :
    (xs.map key).Nodup := by
  have hlength := length_repeats_add_distinct key xs
  rw [h, List.length_nil, Nat.zero_add, ← List.length_map key] at hlength
  exact Multiset.coe_nodup.1 (Multiset.toFinset_card_eq_card_iff_nodup.1 hlength)

end Repeats

/-! ### Claims -/

/-- **The files that artifacts have claimed,** each with the first artifact that has it. -/
def Claims (claims : Table String String) (artifacts : List Artifact) : Prop :=
  ∀ file, claims.find? file = (artifacts.find? fun a => a.file = file).map Artifact.name

theorem claims_empty : Claims .empty [] :=
  fun _ => rfl

/-- The warning about an artifact and the first one that has its file. -/
def collision (label : String) (pair : Artifact × Artifact) : Warning :=
  .sharedFile label pair.1.name pair.2.name pair.1.file

/-- **One claim more:** it warns if the artifact repeats a file. -/
theorem Claims.claim {config : Config} {label : String} {claims next : Table String String}
    {before : List Artifact} (h : Claims claims before) (a : Artifact)
    (hnext : (claim config label a.name a.file claims).outcome = .ok next) :
    Claims next (before ++ [a]) ∧ (EntityForge.claim config label a.name a.file claims).warnings
      = ((before.find? fun b => b.file = a.file).toList.map (Prod.mk a)).map (collision label) := by
  have hfile := h a.file
  unfold EntityForge.claim at hnext ⊢
  rcases hfind : before.find? fun b => b.file = a.file with _ | first
  · rw [hfind, Option.map_none] at hfile
    rw [hfile] at hnext ⊢
    cases hnext
    refine ⟨fun file => ?_, by rw [hfind]; rfl⟩
    rw [List.find?_append]
    by_cases heq : file = a.file
    · subst heq
      simp [hfind]
    · rw [Table.find?_insert_of_ne _ heq, h file]
      simp [Ne.symm heq]
  · rw [hfind, Option.map_some] at hfile
    rw [hfile] at hnext ⊢
    obtain ⟨_, hwarn, hkeep⟩ := Run.outcome_bind_eq_ok_iff.1 hnext
    cases hkeep
    constructor
    · intro file
      rw [h file, List.find?_append]
      by_cases heq : file = a.file
      · subst heq
        simp [hfind]
      · simp [Ne.symm heq]
    · dsimp only
      rw [Run.warnings_bind_of_ok hwarn, warnings_warn_of_ok hwarn, hfind]
      rfl

/-! ### Components -/

theorem buildComponents_repeats {config : Config} {cs : List Component} :
    ∀ {claims : Table String String} {before artifacts : List Artifact}, Claims claims before →
      (buildComponents config claims cs).outcome = .ok artifacts →
      artifacts = cs.map (componentArtifact config) ∧
        (buildComponents config claims cs).warnings
          = (repeats Artifact.file before artifacts).map (collision "Component") := by
  induction cs with
  | nil =>
    intro claims before artifacts _ hok
    cases hok
    exact ⟨rfl, rfl⟩
  | cons c cs ih =>
    intro claims before artifacts h hok
    rw [buildComponents] at hok ⊢
    obtain ⟨next, hnext, hok⟩ := Run.outcome_bind_eq_ok_iff.1 hok
    obtain ⟨rest, hrest, hlast⟩ := Run.outcome_bind_eq_ok_iff.1 hok
    cases hlast
    obtain ⟨hclaims, hwarned⟩ := h.claim (componentArtifact config c) hnext
    obtain ⟨rfl, hmore⟩ := ih hclaims hrest
    refine ⟨rfl, ?_⟩
    rw [Run.warnings_bind_of_ok hnext, Run.warnings_bind_of_ok hrest, hmore, repeats,
      List.map_append]
    refine congrArg₂ (· ++ ·) hwarned ?_
    exact List.append_nil _

/-! ### Templates -/

theorem warnings_buildTemplate {config : Config} {catalog next : Catalog} {before : List Template}
    (h : catalog.Knows before) {t : Template}
    (hnext : (buildTemplate config catalog t).outcome = .ok next) :
    (buildTemplate config catalog t).warnings
      = ((before.find? fun u => u.name.val = t.name.val).toList.map (Prod.mk t)).map fun pair =>
          .redeclared pair.1.name.val := by
  have hknown : (catalog.known.find? t.name.val).isSome
      = (before.find? fun u => u.name.val = t.name.val).isSome := by
    rw [Bool.eq_iff_iff, h t.name.val, isSome_find?_key_iff (fun u : Template => u.name.val)]
  obtain ⟨resolved, hresolve, -⟩ := outcome_buildTemplate_eq_ok hnext
  unfold buildTemplate at hnext ⊢
  rw [hresolve] at hnext ⊢
  dsimp only at hnext ⊢
  rw [hknown] at hnext ⊢
  rcases hfind : before.find? fun u => u.name.val = t.name.val with _ | first
  · rw [hfind]
    rfl
  · rw [hfind] at hnext ⊢
    obtain ⟨_, hwarn, -⟩ := Run.outcome_bind_eq_ok_iff.1 hnext
    refine (Run.warnings_bind_of_ok hwarn).trans ?_
    rw [warnings_warn_of_ok hwarn]
    rfl

/-- **Templates warn of repeated names,** and every declaration has an entry. -/
theorem buildTemplates_repeats {config : Config} {ts : List Template} :
    ∀ {catalog last : Catalog} {before : List Template}, catalog.Knows before →
      (buildTemplates config catalog ts).outcome = .ok last →
      last.entries.map Script.Blueprint.template
          = catalog.entries.map Script.Blueprint.template ++ ts.map (fun t => t.name.val) ∧
        (buildTemplates config catalog ts).warnings
          = (repeats (fun t => t.name.val) before ts).map fun pair =>
              .redeclared pair.1.name.val := by
  induction ts with
  | nil =>
    intro catalog last before _ hok
    cases hok
    exact ⟨(List.append_nil _).symm, rfl⟩
  | cons t ts ih =>
    intro catalog last before h hok
    rw [buildTemplates] at hok ⊢
    obtain ⟨next, hnext, hrest⟩ := Run.outcome_bind_eq_ok_iff.1 hok
    obtain ⟨resolved, -, rfl⟩ := outcome_buildTemplate_eq_ok hnext
    obtain ⟨hentries, hmore⟩ := ih (h.add t resolved) hrest
    constructor
    · rw [hentries, Catalog.add, List.map_append, List.append_assoc]
      rfl
    · rw [Run.warnings_bind_of_ok hnext, hmore, repeats, List.map_append,
        warnings_buildTemplate h hnext]

/-! ### Systems -/

section Filter
variable {α β : Type} {q : β → Bool} {f : α → β} {xs : List α}

theorem filter_map_of_all (h : ∀ x, q (f x) = true) : (xs.map f).filter q = xs.map f :=
  List.filter_eq_self.2 (by simpa using fun x _ => h x)

theorem filter_map_of_none (h : ∀ x, q (f x) = false) : (xs.map f).filter q = [] :=
  List.filter_eq_nil_iff.2 (by simpa using fun x _ => h x)

end Filter

/-- Whether a warning is about a name that stood before. -/
def Warning.isRepeat : Warning → Bool
  | sharedFile .. | redeclared _ => true
  | ignoredParent _ => false

theorem filter_isRepeat_ignored (variant : Variant) (s : System) :
    (s.ignored variant).filter Warning.isRepeat = [] := by
  cases variant with
  | flat => rfl
  | spatial => exact filter_map_of_none fun _ => rfl

theorem Turns.filter_isRepeat {config : Config} {known : Table String Resolved}
    {claims : Table String String} {turns : List SystemTurn}
    (h : Turns config known claims turns) : ∀ {before : List Artifact}, Claims claims before →
      (turns.flatMap SystemTurn.warnings).filter Warning.isRepeat
        = (repeats Artifact.file before
            ((acceptedTurns turns).map (SystemTurn.artifact config))).map (collision "System") := by
  induction h with
  | nil =>
    intro before _
    rfl
  | rejected _ _ _ ih =>
    intro before hclaims
    rw [List.flatMap_cons, List.filter_append, filter_isRepeat_ignored, List.nil_append]
    exact ih hclaims
  | @accepted _ _ s _ _ _ hrequired hclaim _ ih =>
    intro before hclaims
    obtain ⟨hnext, hwarned⟩ := hclaims.claim
      (systemArtifact config s (s.base config.variant) (requirementOf known s.requirement)) hclaim
    rw [List.flatMap_cons, List.filter_append, List.filter_append, filter_isRepeat_ignored,
      List.nil_append, ih hnext, acceptedTurns_cons_of_ne hrequired, List.map_cons, repeats,
      List.map_append]
    exact congrArg (· ++ _) ((congrArg _ hwarned).trans (filter_map_of_all fun _ => rfl))

/-- **Systems warn of repeated files.** A rejected system has no file and claims none. -/
theorem buildSystems_repeats {config : Config} {known : Table String Resolved}
    {ss : List System} {claims : Table String String} {before artifacts : List Artifact}
    {rejected : List String} (h : Claims claims before)
    (hok : (buildSystems config known claims ss).outcome = .ok (artifacts, rejected)) :
    (∀ a ∈ artifacts, ∃ base, a.kind = .system base) ∧
      (buildSystems config known claims ss).warnings.filter Warning.isRepeat
        = (repeats Artifact.file before artifacts).map (collision "System") := by
  obtain ⟨turns, hturns, -, rfl, -, -, hwarnings⟩ := turns_of_buildSystems hok
  rw [hwarnings, hturns.filter_isRepeat h]
  refine ⟨fun a ha => ?_, rfl⟩
  obtain ⟨t, -, rfl⟩ := List.mem_map.1 ha
  exact ⟨t.system.base config.variant, rfl⟩

/-! ### Compilations -/

/-- **The warnings about repeated names** in a compilation: components, templates, systems. -/
theorem warnings_compile {config : Config} {p : Program} {output : Output}
    (h : (compile config p).outcome = .ok output) :
    output.warnings.filter Warning.isRepeat
      = (repeats Artifact.file [] output.components).map (collision "Component")
        ++ (repeats (fun t => t.name.val) [] p.templates).map
            (fun pair => .redeclared pair.1.name.val)
        ++ (repeats Artifact.file [] output.systems).map (collision "System") := by
  obtain ⟨catalog, hcomponents, htemplates, hsystems, -, -, hwarnings⟩ :=
    outcome_compile_eq_ok_iff.1 h
  obtain ⟨-, hfiles⟩ := buildComponents_repeats claims_empty hcomponents
  obtain ⟨-, hnames⟩ := buildTemplates_repeats Catalog.knows_empty htemplates
  obtain ⟨-, hothers⟩ := buildSystems_repeats claims_empty hsystems
  obtain ⟨-, hsplit⟩ := reports_compile hcomponents htemplates hsystems
  rw [hwarnings, hsplit, List.filter_append, List.filter_append, hothers, hfiles, hnames,
    filter_map_of_all fun _ => rfl, filter_map_of_all fun _ => rfl]

theorem warnings_eq_nil_of_strict {config : Config} (hstrict : config.lenient = false)
    {p : Program} {output : Output} (h : (compile config p).outcome = .ok output) :
    output.warnings = [] := by
  have hsteps : StepRelation config config fun _ r _ => r.warnings = [] :=
    { value := fun _ => rfl
      undeclaredParent := fun _ _ => rfl
      unknownBase := fun _ _ => rfl
      warning := fun w => by simp [warn, Config.stopsOnWarning, hstrict]
      bind := fun {_ _ r _ f _} hr hf => by
        rcases r with ⟨events, warnings, e | a⟩
        · exact hr
        · exact List.append_eq_nil_iff.2 ⟨hr, hf a⟩ }
  obtain ⟨-, -, -, -, -, -, hwarnings⟩ := outcome_compile_eq_ok_iff.1 h
  rw [hwarnings]
  exact hsteps.buildProgram rfl (fun _ => rfl) p

/-! ### What the warnings tell -/

/-- Whether a text warns of a file which two artifacts with a label share. -/
def saysShared (label text : String) : Bool :=
  (label ++ " '").toList.isPrefixOf text.toList ∧ "' both generate '".toList <:+: text.toList

/-- Whether a text warns of a template whose name stood before. -/
def saysRedeclared (text : String) : Bool :=
  "Template '".toList.isPrefixOf text.toList ∧ "declared more than once".toList <:+: text.toList

/-- **What is said of an artifact** and the earliest one that has its file. -/
def sharedText (label : String) (a earliest : Artifact) : String :=
  label ++ " '" ++ a.name ++ "' and '" ++ earliest.name ++ "' both generate '" ++ a.file
    ++ "'; the later one wins"

/-- **Texts that tell which artifacts collide:** one for every artifact whose file stood before,
naming it, the earliest artifact that has the file, and the file. -/
structure TellsCollisions (label : String) (texts : List String) (artifacts : List Artifact) :
    Prop where
  count : (texts.filter (saysShared label)).length
    + (artifacts.map Artifact.file).toFinset.card = artifacts.length
  told : ∀ text, text ∈ texts ∧ saysShared label text = true ↔
    ∃ before a after earliest, artifacts = before ++ a :: after ∧
      before.find? (fun b => b.file = a.file) = some earliest ∧ text = sharedText label a earliest

theorem saysShared_sharedText (label : String) (a earliest : Artifact) :
    saysShared label (sharedText label a earliest) = true := by
  refine decide_eq_true ⟨List.isPrefixOf_iff_prefix.2 ?_, ?_⟩
  · refine ⟨(a.name ++ "' and '" ++ earliest.name ++ "' both generate '" ++ a.file
      ++ "'; the later one wins").toList, ?_⟩
    simp only [sharedText, String.toList_append, List.append_assoc]
  · refine ⟨(label ++ " '" ++ a.name ++ "' and '" ++ earliest.name).toList,
      (a.file ++ "'; the later one wins").toList, ?_⟩
    simp only [sharedText, String.toList_append, List.append_assoc]

theorem saysRedeclared_message (template : String) :
    saysRedeclared (Warning.message (.redeclared template)) = true := by
  have hsplit : "' is declared more than once; the later one wins"
      = "' is " ++ "declared more than once" ++ "; the later one wins" := by decide
  refine decide_eq_true ⟨List.isPrefixOf_iff_prefix.2 ?_, ?_⟩
  · unfold Warning.message
    dsimp only
    rw [String.append_assoc, String.toList_append]
    exact List.prefix_append _ _
  · refine ⟨("Template '" ++ template ++ "' is ").toList, "; the later one wins".toList, ?_⟩
    unfold Warning.message
    dsimp only
    rw [hsplit]
    simp only [String.toList_append, List.append_assoc]

theorem isPrefixOf_eq_false_of_head {start text : String} {c d : Char}
    (hstart : start.toList.head? = some c) (htext : text.toList.head? = some d) (hne : c ≠ d) :
    start.toList.isPrefixOf text.toList = false := by
  rw [Bool.eq_false_iff, Ne, List.isPrefixOf_iff_prefix]
  rintro ⟨rest, hrest⟩
  rw [← hrest, List.head?_append, hstart] at htext
  exact hne (Option.some.inj htext)

theorem head?_append_of_head {start : String} {c : Char} (h : start.toList.head? = some c)
    (rest : String) : (start ++ rest).toList.head? = some c := by
  rw [String.toList_append, List.head?_append, h]
  rfl

theorem saysShared_of_head {label text : String} {c d : Char} (hlabel : label.toList.head? = some c)
    (htext : text.toList.head? = some d) (hne : c ≠ d) : saysShared label text = false := by
  have hstart := isPrefixOf_eq_false_of_head (head?_append_of_head hlabel " '") htext hne
  exact decide_eq_false fun h => Bool.false_ne_true (hstart.symm.trans h.1)

theorem saysRedeclared_of_head {text : String} {c : Char} (htext : text.toList.head? = some c)
    (hne : 'T' ≠ c) : saysRedeclared text = false := by
  have hstart := @isPrefixOf_eq_false_of_head "Template '" text _ _ (by decide) htext hne
  exact decide_eq_false fun h => Bool.false_ne_true (hstart.symm.trans h.1)

/-- **What a compilation says about repeated names,** picked from all it says: about components,
templates and systems. -/
theorem filter_messages_compile {config : Config} {p : Program} {output : Output}
    (h : (compile config p).outcome = .ok output) {q : String → Bool}
    (hignored : ∀ system, q (Warning.message (.ignoredParent system)) = false) :
    (output.warnings.map Warning.message).filter q
      = ((repeats Artifact.file [] output.components).map
          fun pair => sharedText "Component" pair.1 pair.2).filter q
        ++ ((repeats (fun t => t.name.val) [] p.templates).map
          fun pair => Warning.message (.redeclared pair.1.name.val)).filter q
        ++ ((repeats Artifact.file [] output.systems).map
          fun pair => sharedText "System" pair.1 pair.2).filter q := by
  have hkept : output.warnings.filter (q ∘ Warning.message)
      = (output.warnings.filter Warning.isRepeat).filter (q ∘ Warning.message) := by
    rw [List.filter_filter]
    refine List.filter_congr fun w _ => ?_
    cases w with
    | ignoredParent system => exact (hignored system).trans (by simp [hignored])
    | sharedFile => exact (Bool.and_true _).symm
    | redeclared => exact (Bool.and_true _).symm
  rw [List.filter_map, hkept, warnings_compile h, ← List.filter_map, List.map_append,
    List.map_append, List.map_map, List.map_map, List.map_map, List.filter_append,
    List.filter_append]
  rfl

theorem tellsCollisions_of_filter {label : String} {texts : List String}
    {artifacts : List Artifact} (h : texts.filter (saysShared label)
      = (repeats Artifact.file [] artifacts).map fun pair => sharedText label pair.1 pair.2) :
    TellsCollisions label texts artifacts where
  count := by
    rw [h, List.length_map, length_repeats_add_distinct]
  told text := by
    rw [← List.mem_filter, h, List.mem_map]
    constructor
    · rintro ⟨⟨a, earliest⟩, hpair, rfl⟩
      obtain ⟨before, after, hsplit, hfind⟩ := (mem_repeats_iff Artifact.file).1 hpair
      exact ⟨before, a, after, earliest, hsplit, hfind, rfl⟩
    · rintro ⟨before, a, after, earliest, hsplit, hfind, rfl⟩
      exact ⟨(a, earliest), (mem_repeats_iff Artifact.file).2 ⟨before, after, hsplit, hfind⟩, rfl⟩

/-- **A compilation tells which components and which systems collide,** and counts the templates
that do. Rejected systems have no files, so they do not collide. -/
theorem tellsCollisions_of_compile {config : Config} {p : Program} {output : Output}
    (h : (compile config p).outcome = .ok output) :
    TellsCollisions "Component" (output.warnings.map Warning.message) output.components ∧
    TellsCollisions "System" (output.warnings.map Warning.message) output.systems ∧
    ((output.warnings.map Warning.message).filter saysRedeclared).length
      + (p.templates.map fun t => t.name.val).toFinset.card = p.templates.length := by
  -- The four kinds of warnings start with different letters.
  have hcomponent : ∀ a b, (sharedText "Component" a b).toList.head? = some 'C' := fun a b => by
    simp only [sharedText, String.append_assoc]
    exact head?_append_of_head (by decide) _
  have hsystem : ∀ a b, (sharedText "System" a b).toList.head? = some 'S' := fun a b => by
    simp only [sharedText, String.append_assoc]
    exact head?_append_of_head (by decide) _
  have htemplate : ∀ t, (Warning.message (.redeclared t)).toList.head? = some 'T' := fun t => by
    unfold Warning.message
    dsimp only
    rw [String.append_assoc]
    exact head?_append_of_head (by decide) _
  have hignored : ∀ s, (Warning.message (.ignoredParent s)).toList.head? = some 'I' := fun s => by
    unfold Warning.message
    dsimp only
    rw [String.append_assoc]
    exact head?_append_of_head (by decide) _
  refine ⟨tellsCollisions_of_filter ?_, tellsCollisions_of_filter ?_, ?_⟩
  · have hnot : ∀ {text d}, text.toList.head? = some d → 'C' ≠ d →
        saysShared "Component" text = false := saysShared_of_head (by decide)
    rw [filter_messages_compile h fun s => hnot (hignored s) (by decide),
      filter_map_of_all fun _ => saysShared_sharedText ..,
      filter_map_of_none fun _ => hnot (htemplate _) (by decide),
      filter_map_of_none fun _ => hnot (hsystem ..) (by decide), List.append_nil, List.append_nil]
  · have hnot : ∀ {text d}, text.toList.head? = some d → 'S' ≠ d →
        saysShared "System" text = false := saysShared_of_head (by decide)
    rw [filter_messages_compile h fun s => hnot (hignored s) (by decide),
      filter_map_of_none fun _ => hnot (hcomponent ..) (by decide),
      filter_map_of_none fun _ => hnot (htemplate _) (by decide),
      filter_map_of_all fun _ => saysShared_sharedText .., List.nil_append, List.nil_append]
  · rw [filter_messages_compile h fun s => saysRedeclared_of_head (hignored s) (by decide),
      filter_map_of_none fun _ => saysRedeclared_of_head (hcomponent ..) (by decide),
      filter_map_of_all fun _ => saysRedeclared_message _,
      filter_map_of_none fun _ => saysRedeclared_of_head (hsystem ..) (by decide),
      List.nil_append, List.append_nil, List.length_map, length_repeats_add_distinct]

/-! ### Paths -/

/-- **Paths are distinct** if the files of each kind are. -/
theorem nodup_outputPath {output : Output}
    (hcomponents : ∀ a ∈ output.components, a.kind = .component)
    (hsystems : ∀ a ∈ output.systems, ∃ base, a.kind = .system base)
    (hfactory : output.factory.outputPath = "factory.js")
    (hfiles : (output.components.map Artifact.file).Nodup)
    (hothers : (output.systems.map Artifact.file).Nodup) :
    (output.artifacts.map Artifact.outputPath).Nodup := by
  have hleft : output.components.map Artifact.outputPath
      = (output.components.map Artifact.file).map ("components/" ++ ·) := by
    rw [List.map_map]
    refine List.map_congr_left fun a ha => ?_
    simp [Artifact.outputPath, hcomponents a ha]
  have hright : output.systems.map Artifact.outputPath
      = (output.systems.map Artifact.file).map ("systems/" ++ ·) := by
    rw [List.map_map]
    refine List.map_congr_left fun a ha => ?_
    obtain ⟨base, hbase⟩ := hsystems a ha
    simp [Artifact.outputPath, hbase]
  have hinj : ∀ folder : String, Function.Injective (folder ++ ·) := fun folder _ _ h =>
    (String.append_right_inj folder).1 h
  -- Paths of different kinds start with different characters.
  have hhead : ∀ {s t : String}, s.toList.head? ≠ t.toList.head? → s ≠ t := fun h heq =>
    h (congrArg (fun u : String => u.toList.head?) heq)
  rw [Output.artifacts, List.map_append, List.map_append, List.map_singleton, hleft, hright,
    hfactory]
  refine List.nodup_append.2 ⟨List.nodup_append.2 ⟨hfiles.map (hinj _), hothers.map (hinj _), ?_⟩,
    List.nodup_singleton _, ?_⟩
  · intro path hpath other hother
    obtain ⟨file, -, rfl⟩ := List.mem_map.1 hpath
    obtain ⟨file', -, rfl⟩ := List.mem_map.1 hother
    exact hhead (by simp)
  · intro path hpath other hother
    rw [List.mem_singleton.1 hother]
    rcases List.mem_append.1 hpath with hpath | hpath
    · obtain ⟨file, -, rfl⟩ := List.mem_map.1 hpath
      exact hhead (by simp)
    · obtain ⟨file, -, rfl⟩ := List.mem_map.1 hpath
      exact hhead (by simp)

/-- **The warnings of a compilation tell which outputs collide.** When a source text compiles, there
is one warning for every component whose file stood before, and it names the earliest component that
has the file; the same holds for systems. There is one warning for every template whose name stood
before, and the factory has a function for every template. So without warnings, as after every
strict compilation, all paths are distinct, and so are the functions of the factory. -/
theorem compileSource_tells_collisions {config : Config} {source : String} {output : Output}
    (h : (compileSource config source).outcome = .ok output) :
    TellsCollisions "Component" (output.warnings.map Warning.message) output.components ∧
    TellsCollisions "System" (output.warnings.map Warning.message) output.systems ∧
    (∃ p, readProgram source = .ok p ∧
      output.factory.creators.map Creator.template = p.templates.map (fun t => t.name.val) ∧
      ((output.warnings.map Warning.message).filter saysRedeclared).length
        + (p.templates.map fun t => t.name.val).toFinset.card = p.templates.length) ∧
    (output.warnings = [] → (output.artifacts.map Artifact.outputPath).Nodup ∧
      (output.factory.creators.map Creator.name).Nodup) ∧
    (config.lenient = false → output.warnings = []) := by
  obtain ⟨p, hread, hcompile⟩ := outcome_compileSource_eq_ok_iff.1 h
  obtain ⟨catalog, hcomponents, htemplates, hsystems, hfactory, -, -⟩ :=
    outcome_compile_eq_ok_iff.1 hcompile
  obtain ⟨hmade, -⟩ := buildComponents_repeats claims_empty hcomponents
  obtain ⟨hentries, -⟩ := buildTemplates_repeats Catalog.knows_empty htemplates
  obtain ⟨hkinds, -⟩ := buildSystems_repeats claims_empty hsystems
  have hwarnings := warnings_compile hcompile
  have htemplate : output.factory.creators.map Creator.template
      = p.templates.map fun t => t.name.val := by
    rw [hfactory, Artifact.creators, factoryArtifact, List.map_map]
    exact hentries
  obtain ⟨hfirst, hsecond, hcount⟩ := tellsCollisions_of_compile hcompile
  refine ⟨hfirst, hsecond, ⟨p, hread, htemplate, hcount⟩, fun hnone => ?_,
    fun hstrict => warnings_eq_nil_of_strict hstrict hcompile⟩
  rw [hnone, List.filter_nil, eq_comm, List.append_eq_nil_iff, List.append_eq_nil_iff,
    List.map_eq_nil_iff, List.map_eq_nil_iff, List.map_eq_nil_iff] at hwarnings
  obtain ⟨⟨hfiles, hnames⟩, hothers⟩ := hwarnings
  constructor
  · refine nodup_outputPath (fun a ha => ?_) hkinds (by rw [hfactory]; rfl)
      (nodup_of_repeats_eq_nil _ hfiles) (nodup_of_repeats_eq_nil _ hothers)
    rw [hmade] at ha
    obtain ⟨c, -, rfl⟩ := List.mem_map.1 ha
    rfl
  · have hname : output.factory.creators.map Creator.name
        = (output.factory.creators.map Creator.template).map Script.creatorName := by
      rw [hfactory, Artifact.creators, factoryArtifact, List.map_map, List.map_map, List.map_map]
      rfl
    rw [hname, htemplate]
    exact (nodup_of_repeats_eq_nil _ hnames).map fun _ _ heq =>
      (String.append_right_inj "create").1 heq

/-- A source in which two components, two systems and two templates collide, and another system,
which is rejected, does not. -/
def crowdedSource : String :=
  "project Crowd\ncomponent Body \x7b\x7d\ncomponent BodyComponent \x7b\x7d\n"
    ++ "template Wolf \x7b Body \x7b\x7d \x7d\ntemplate Wolf \x7b\x7d\n"
    ++ "system MOVE \x7b\x7d\nsystem Move \x7b components: [Body] \x7d\n"
    ++ "system MoveSystem \x7b components: [Body] \x7d\n"

/-- A source in which a component and a system have files of one name. -/
def roomySource : String :=
  "project Room\ncomponent Move \x7b\x7d\ntemplate Wolf \x7b Move \x7b\x7d \x7d\n"
    ++ "template Cub extends Wolf \x7b\x7d\nsystem MoveSystem \x7b components: [Move] \x7d\n"

theorem compileSource_tells_collisions_crowded :
    (∃ output, (compileSource { lenient := true } crowdedSource).outcome = .ok output ∧
      output.warnings.map Warning.message = [
        "Component 'BodyComponent' and 'Body' both generate 'body.js'; the later one wins",
        "Template 'Wolf' is declared more than once; the later one wins",
        "System 'MoveSystem' and 'Move' both generate 'move.js'; the later one wins"] ∧
      TellsCollisions "Component" (output.warnings.map Warning.message) output.components ∧
      TellsCollisions "System" (output.warnings.map Warning.message) output.systems) ∧
    ∃ output, (compileSource {} roomySource).outcome = .ok output ∧ output.warnings = [] ∧
      (output.artifacts.map Artifact.outputPath).Nodup ∧
      (output.factory.creators.map Creator.name).Nodup := by
  obtain ⟨crowded, hcrowded, hwarnings⟩ : ∃ output,
      (compileSource { lenient := true } crowdedSource).outcome = .ok output ∧
        output.warnings.map Warning.message = [
          "Component 'BodyComponent' and 'Body' both generate 'body.js'; the later one wins",
          "Template 'Wolf' is declared more than once; the later one wins",
          "System 'MoveSystem' and 'Move' both generate 'move.js'; the later one wins"] :=
    Run.exists_ok_of_map_eq (by decide +kernel)
  obtain ⟨roomy, hroomy⟩ : ∃ output, (compileSource {} roomySource).outcome = .ok output :=
    Run.exists_ok (by decide +kernel)
  obtain ⟨hcomponents, hsystems, -⟩ := compileSource_tells_collisions hcrowded
  obtain ⟨-, -, -, hdistinct, hstrict⟩ := compileSource_tells_collisions hroomy
  exact ⟨⟨crowded, hcrowded, hwarnings, hcomponents, hsystems⟩,
    roomy, hroomy, hstrict rfl, hdistinct (hstrict rfl)⟩

end EntityForge
