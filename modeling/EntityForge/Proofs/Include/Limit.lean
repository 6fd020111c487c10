import EntityForge.Proofs.Include.Fixpoint
import EntityForge.Proofs.Store.Paths

/-! # The limit on passes

The passes over a text are counted, and expansion is given up if the last of them still changes the
text. That nothing changes is only noticed by one pass more, so a text whose last directive goes in
the last pass is given up as if directives were left.

* `textAfter`: the text after so many passes.
* `expandPasses_of_expandTimes`: a text that is cleared before the last pass is expanded.
* `expandPasses_eq_unresolved_iff`: the limit is reported if the last pass changes the text.
* `expandIncludes_limit`: what that says about directives.
* `chainStore`, `expandTimes_chainText`: a chain of files is followed one file in each pass. -/

namespace EntityForge

open Text

variable {store : Store} {folder : String}

/-! ### The limit -/

/-- **A text that is cleared before the last pass is expanded.** -/
theorem expandPasses_of_expandTimes {out : List Char} (hout : ¬ HasDirective out) {n : ℕ} :
    ∀ {m : ℕ} {expanded files : List Path} {text : List Char}, n < m →
      expandTimes store folder n expanded text = .ok (out, files) →
      expandPasses store folder m expanded text = .ok out := by
  induction n with
  | zero =>
    intro m expanded files text hm h
    obtain ⟨m, rfl⟩ := Nat.exists_eq_succ_of_ne_zero (Nat.ne_of_gt hm)
    cases h
    rw [expandPasses_succ_of_pass (expandOnce_of_not_hasDirective hout expanded), if_pos rfl]
  | succ n ih =>
    intro m expanded files text hm h
    obtain ⟨m, rfl⟩ := Nat.exists_eq_succ_of_ne_zero (Nat.ne_of_gt (Nat.zero_lt_of_lt hm))
    obtain ⟨next, mid, hpass, hrest⟩ := expandTimes_succ_eq_ok_iff.1 h
    rw [expandPasses_succ_of_pass hpass]
    split_ifs with hsame
    · subst hsame
      rw [eq_of_expandTimes_of_same hpass hrest]
    · exact ih (Nat.lt_of_succ_lt_succ hm) hrest

/-- A wording is told by a letter near its start. -/
theorem getElem?_seven_append {front : String} {c : Char} (h : front.toList[7]? = some c)
    (rest : String) : (front ++ rest).toList[7]? = some c := by
  obtain ⟨hlength, -⟩ := List.getElem?_eq_some_iff.1 h
  rw [String.toList_append, List.getElem?_append_left hlength, h]

theorem IncludeFault.eq_unresolved_of_message {f : IncludeFault}
    (h : f.message = IncludeFault.unresolved.message) : f = .unresolved := by
  have hletter : f.message.toList[7]? = some 's' := by
    rw [h]
    decide
  cases f with
  | malformed =>
    have hother : IncludeFault.malformed.message.toList[7]? = some 'e' := by decide
    rw [hother] at hletter
    cases hletter
  | unreadable path cause =>
    have hother : "cannot read include '".toList[7]? = some 'r' := by decide
    change ("cannot read include '" ++ path ++ "': " ++ cause.message).toList[7]? = _ at hletter
    rw [String.append_assoc, String.append_assoc, getElem?_seven_append hother] at hletter
    cases hletter
  | repeated file =>
    have hother : "include cycle: '".toList[7]? = some ' ' := by decide
    change ("include cycle: '" ++ file.text ++ "' is already included").toList[7]? = _ at hletter
    rw [String.append_assoc, getElem?_seven_append hother] at hletter
    cases hletter
  | unresolved => rfl

theorem ne_unresolved_of_expandFile {expanded : List Path} {path : String} {f : IncludeFault}
    (h : expandFile store folder expanded path = .error f) : f ≠ .unresolved := by
  unfold expandFile at h
  split at h
  · cases h
    exact nofun
  · split_ifs at h
    · cases h
      exact nofun
    · split at h
      · cases h
        exact nofun
      · cases h

theorem ne_unresolved_of_expandLines {lines : List (List Char)} {f : Located IncludeFault} :
    ∀ {offset : ℕ} {expanded : List Path},
      expandLines store folder offset expanded lines = .error f → f.val ≠ .unresolved := by
  induction lines with
  | nil =>
    intro offset expanded h
    cases h
  | cons line lines ih =>
    intro offset expanded h
    rw [expandLines] at h
    split at h
    · split at h
      · cases h
      · next hrest =>
        cases h
        exact ih hrest
    · cases h
      exact IncludeFault.noConfusion
    · split at h
      · next hfile =>
        cases h
        exact ne_unresolved_of_expandFile hfile
      · split at h
        · cases h
        · next hrest =>
          cases h
          exact ih hrest

theorem expandPasses_succ_eq_unresolved_iff {n : ℕ} {expanded : List Path} {text : List Char}
    {e : SourceError} (he : e.message = IncludeFault.unresolved.message) :
    expandPasses store folder (n + 1) expanded text = .error e ↔ ∃ next files,
      expandOnce store folder expanded text = .ok (next, files) ∧ next ≠ text ∧
        expandPasses store folder n files next = .error e := by
  rcases hpass : expandOnce store folder expanded text with f | ⟨next, files⟩
  · rw [expandPasses, hpass]
    constructor
    · intro h
      cases h
      exact absurd (IncludeFault.eq_unresolved_of_message he) (ne_unresolved_of_expandLines hpass)
    · rintro ⟨_, _, hok, -⟩
      cases hok
  · rw [expandPasses_succ_of_pass hpass]
    constructor
    · intro h
      split_ifs at h with hsame
      exact ⟨next, files, rfl, hsame, h⟩
    · rintro ⟨_, _, hok, hne, h⟩
      cases hok
      rw [if_neg hne, h]

/-- **The limit is reported exactly if the last pass still changes the text,** and then for the text
that this pass leads to. -/
theorem expandPasses_eq_unresolved_iff {n : ℕ} {e : SourceError}
    (he : e.message = IncludeFault.unresolved.message) : ∀ {expanded : List Path}
    {text : List Char}, expandPasses store folder (n + 1) expanded text = .error e ↔
      ∃ before mid out files, expandTimes store folder n expanded text = .ok (before, mid) ∧
        expandOnce store folder mid before = .ok (out, files) ∧ out ≠ before ∧
        e = .at (String.ofList out) ⟨0, 0⟩ IncludeFault.unresolved.message := by
  induction n with
  | zero =>
    intro expanded text
    rw [expandPasses_succ_eq_unresolved_iff he]
    constructor
    · rintro ⟨next, files, hpass, hne, h⟩
      cases h
      exact ⟨text, expanded, next, files, rfl, hpass, hne, rfl⟩
    · rintro ⟨_, _, out, files, hbefore, hpass, hne, rfl⟩
      cases hbefore
      exact ⟨out, files, hpass, hne, rfl⟩
  | succ n ih =>
    intro expanded text
    rw [expandPasses_succ_eq_unresolved_iff he]
    constructor
    · rintro ⟨next, first, hpass, -, h⟩
      obtain ⟨before, mid, out, files, hbefore, hlast⟩ := ih.1 h
      exact ⟨before, mid, out, files,
        expandTimes_succ_eq_ok_iff.2 ⟨next, first, hpass, hbefore⟩, hlast⟩
    · rintro ⟨before, mid, out, files, hbefore, hlast, hne, he⟩
      obtain ⟨next, first, hpass, hrest⟩ := expandTimes_succ_eq_ok_iff.1 hbefore
      refine ⟨next, first, hpass, ?_, ih.2 ⟨before, mid, out, files, hrest, hlast, hne, he⟩⟩
      -- If the first pass changed nothing, the last one would not either.
      rintro rfl
      have hbefore := eq_of_expandTimes_of_same hpass hrest
      have hout := eq_of_expandTimes_of_same hpass
        (expandTimes_succ_eq_ok_iff_last.2 ⟨before, mid, hrest, hlast⟩)
      exact hne (hout.trans hbefore.symm)

/-- **The text after so many passes,** whether they change it or not. -/
def textAfter (store : Store) (origin : Origin) (source : String) (n : ℕ) :
    Except (Located IncludeFault) (List Char) :=
  (expandTimes store origin.folder n (origin.expanded store) source.toList).map Prod.fst

section Origin
variable {origin : Origin} {source : String}

theorem textAfter_eq_ok_iff {n : ℕ} {text : List Char} :
    textAfter store origin source n = .ok text ↔ ∃ files,
      expandTimes store origin.folder n (origin.expanded store) source.toList
        = .ok (text, files) := by
  unfold textAfter
  rcases expandTimes store origin.folder n (origin.expanded store) source.toList
    with f | ⟨out, files⟩
  · simp [Except.map]
  · simp [Except.map]

theorem expandIncludes_eq_error_iff {e : SourceError} :
    expandIncludes store origin source = .error e ↔
      expandPasses store origin.folder passLimit (origin.expanded store) source.toList
        = .error e := by
  unfold expandIncludes
  rcases expandPasses store origin.folder passLimit (origin.expanded store) source.toList
    with f | out
  · simp [Except.map]
  · simp [Except.map]

theorem expandIncludes_eq_unresolved {before after : List Char}
    (hbefore : textAfter store origin source 63 = .ok before)
    (hafter : textAfter store origin source 64 = .ok after) (hne : after ≠ before) :
    expandIncludes store origin source
      = .error (.at (String.ofList after) ⟨0, 0⟩ IncludeFault.unresolved.message) := by
  obtain ⟨files, hafter⟩ := textAfter_eq_ok_iff.1 hafter
  obtain ⟨text, mid, htext, hlast⟩ := expandTimes_succ_eq_ok_iff_last.1 hafter
  obtain ⟨mid', hbefore⟩ := textAfter_eq_ok_iff.1 hbefore
  cases hbefore.symm.trans htext
  rw [expandIncludes_eq_error_iff, passLimit, expandPasses_eq_unresolved_iff rfl]
  exact ⟨before, mid, after, files, hbefore, hlast, hne, rfl⟩

end Origin

theorem unresolved_message :
    IncludeFault.unresolved.message = "includes still unresolved after 64 passes" := by decide

/-- **Expansion is given up exactly if the last of the 64 passes still changes the text.** Then a
directive was left before this pass, though not always after it. A text that fewer passes clear of
directives is expanded. -/
theorem expandIncludes_limit (store : Store) (origin : Origin) (source : String) :
    ((∃ e, expandIncludes store origin source = .error e ∧
        e.message = "includes still unresolved after 64 passes") ↔
      ∃ before after, textAfter store origin source 63 = .ok before ∧
        textAfter store origin source 64 = .ok after ∧ after ≠ before ∧ HasDirective before) ∧
    ∀ n < 64, ∀ out, textAfter store origin source n = .ok out → ¬ HasDirective out →
      expandIncludes store origin source = .ok (String.ofList out) := by
  refine ⟨⟨?_, ?_⟩, fun n hn out hout hclear => ?_⟩
  · rintro ⟨e, he, hmessage⟩
    rw [expandIncludes_eq_error_iff, passLimit,
      expandPasses_eq_unresolved_iff (hmessage.trans unresolved_message.symm)] at he
    obtain ⟨before, mid, after, files, hbefore, hlast, hne, -⟩ := he
    have hafter := expandTimes_succ_eq_ok_iff_last.2 ⟨before, mid, hbefore, hlast⟩
    refine ⟨before, after, textAfter_eq_ok_iff.2 ⟨mid, hbefore⟩,
      textAfter_eq_ok_iff.2 ⟨files, hafter⟩, hne, ?_⟩
    by_contra hclear
    rw [expandOnce_of_not_hasDirective hclear] at hlast
    cases hlast
    exact hne rfl
  · rintro ⟨before, after, hbefore, hafter, hne, -⟩
    exact ⟨_, expandIncludes_eq_unresolved hbefore hafter hne, unresolved_message⟩
  · obtain ⟨files, hout⟩ := textAfter_eq_ok_iff.1 hout
    rw [expandIncludes_eq_ok_iff, String.toList_ofList]
    exact expandPasses_of_expandTimes hclear hn hout

/-! ### Chains of files -/

/-- The path to a file of a chain. -/
def chainPath (i : ℕ) : List Char :=
  '/' :: List.replicate (i + 1) 'a'

/-- The name of a file of a chain. -/
def chainName (i : ℕ) : String :=
  String.ofList (List.replicate (i + 1) 'a')

/-- The place of a file of a chain. -/
def chainPlace (i : ℕ) : Path :=
  [chainName i]

/-- A text that is reached through so many files. -/
def chainText : ℕ → List Char
  | 0 => "end".toList
  | i + 1 => directiveWord ++ " \"".toList ++ chainPath i ++ ['"']

/-- **A chain of files,** each of which includes the one before it by its full path. -/
def chainStore (n : ℕ) : Store where
  entries := ⟨(List.range n).map fun i =>
    (chainPlace i, .file (.text (String.ofList (chainText i))))⟩

theorem chainPlace_injective : Function.Injective chainPlace := by
  intro i j h
  have hname := Octets.text.inj (List.cons.inj h).1
  have hlength := congrArg List.length (String.ofList_injective hname)
  rw [List.length_replicate, List.length_replicate] at hlength
  exact Nat.succ.inj hlength

theorem find?_chainStore {n i : ℕ} (hi : i < n) :
    (chainStore n).find? (chainPlace i) = some (.file (.text (String.ofList (chainText i)))) := by
  have hfind : ∀ numbers : List ℕ, i ∈ numbers →
      Table.findIn (chainPlace i) (numbers.map fun i =>
        (chainPlace i, Entry.file (.text (String.ofList (chainText i)))))
        = some (.file (.text (String.ofList (chainText i)))) := by
    intro numbers hmem
    induction numbers with
    | nil => cases hmem
    | cons j numbers ih =>
      rw [List.map_cons, Table.findIn]
      split_ifs with hj
      · rw [chainPlace_injective hj]
      · rcases List.mem_cons.1 hmem with rfl | hmem
        · exact absurd rfl hj
        · exact ih hmem
  have hne : chainPlace i ≠ [] := List.cons_ne_nil _ _
  rw [Store.find?, if_neg hne]
  exact hfind _ (List.mem_range.2 hi)

theorem resolve_chainStore {n i : ℕ} (hi : i < n) :
    (chainStore n).resolve (String.ofList (chainPath i)) = .ok (chainPlace i) := by
  have hsegments : segments (String.ofList (chainPath i)) = ["", chainName i] := by
    have hslash : '/' ∉ List.replicate (i + 1) 'a' := by simp
    rw [segments, String.toList_ofList, chainPath, splitSlash, if_pos rfl,
      splitSlash_of_not_mem hslash]
    rfl
  have hname : IsEntryName (chainName i) := by
    have hne : ∀ c, 'a' ∉ c.toList → chainName i ≠ c := by
      rintro c hc rfl
      exact hc (by simp [chainName])
    exact ⟨hne _ (by decide), hne _ (by decide), hne _ (by decide)⟩
  have horigin : (chainStore n).origin (String.ofList (chainPath i)) = [] := by
    simp [Store.origin, isAbsolute, chainPath]
  have hwalk : (chainStore n).walk [] [chainName i] = .ok (chainPlace i) := by
    have hfound : ((chainStore n).find? (chainPlace i)).isSome = true := by
      rw [find?_chainStore hi]
      rfl
    have hroot : (chainStore n).walk [] [] = .ok [] := rfl
    exact Store.walk_concat_of_isSome hroot (Store.find?_nil _) hname hfound
  rw [Store.resolve, horigin, hsegments, if_neg (by simp [chainPath]), if_neg (by simp [chainPath])]
  exact (Store.walk_cons_of_stay (Or.inl rfl)).2 ⟨Store.find?_nil _, hwalk⟩

theorem newline_not_mem_chainText : ∀ i, '\n' ∉ chainText i
  | 0 => by decide
  | i + 1 => by
    have hword : '\n' ∉ directiveWord ++ " \"".toList := by decide
    have hpath : '\n' ∉ chainPath i ++ ['"'] := by simp [chainPath]
    rw [chainText, List.append_assoc, List.mem_append]
    exact not_or.2 ⟨hword, hpath⟩

theorem parse?_chainText (i : ℕ) : Directive.parse? (chainText (i + 1))
    = some (.wellFormed [] (String.ofList (chainPath i))) := by
  have hindent : ∀ c ∈ ([] : List Char), isBlank c := nofun
  exact Directive.parse?_written hindent (by simp [chainPath]) (List.cons_ne_nil _ _)

/-- The texts of a chain name full paths, so they are the same from everywhere. -/
theorem rebaseDirectives_chainText (dir : String) (i : ℕ) :
    rebaseDirectives dir (chainText i) = chainText i := by
  rw [rebaseDirectives_last dir (newline_not_mem_chainText i)]
  rcases i with _ | i
  · rfl
  · rw [rebaseLine_of_wellFormed (newline_not_mem_chainText _) (parse?_chainText i),
      joinPath_of_isAbsolute dir (by simp [isAbsolute, chainPath])]
    have hpath : (String.ofList (chainPath i)).toList = chainPath i := String.toList_ofList
    rw [hpath]
    rfl

/-- **A pass over a text of a chain** leads to the text of the next file. -/
theorem expandOnce_chainText {n i : ℕ} (hi : i < n) {expanded : List Path}
    (hfresh : chainPlace i ∉ expanded) :
    expandOnce (chainStore n) folder expanded (chainText (i + 1))
      = .ok (chainText i, chainPlace i :: expanded) := by
  have hline := newline_not_mem_chainText (i + 1)
  have hresolve : (chainStore n).resolve (joinPath folder (String.ofList (chainPath i)))
      = .ok (chainPlace i) := by
    rw [joinPath_of_isAbsolute folder (by simp [isAbsolute, chainPath])]
    exact resolve_chainStore hi
  have hread : (chainStore n).readAt (chainPlace i) = .ok (String.ofList (chainText i)) := by
    rw [Store.readAt, find?_chainStore hi]
  rw [expandOnce, splitLines_last hline (by simp [chainText]), expandLines_cons_eq_ok_iff,
    lineBody_last hline, lineEnd_last hline]
  refine ⟨_, _, [], .expand (parse?_chainText i) hresolve hfresh hread, rfl, ?_⟩
  rw [String.toList_ofList, rebaseDirectives_chainText,
    dropFinalNewline_of_not_mem (newline_not_mem_chainText i), List.append_nil, List.append_nil]

/-- **A chain is followed file by file,** one in each pass. -/
theorem expandTimes_chainText {n k : ℕ} : ∀ {m : ℕ} {expanded : List Path}, k + m ≤ n →
    (∀ i < k + m, chainPlace i ∉ expanded) → ∃ files,
      expandTimes (chainStore n) folder k expanded (chainText (k + m))
        = .ok (chainText m, files) := by
  induction k with
  | zero =>
    intro m expanded _ _
    exact ⟨expanded, by rw [Nat.zero_add]; rfl⟩
  | succ k ih =>
    intro m expanded hn hfresh
    have hpass : expandOnce (chainStore n) folder expanded (chainText (k + 1 + m))
        = .ok (chainText (k + m), chainPlace (k + m) :: expanded) := by
      rw [Nat.add_right_comm k 1 m]
      exact expandOnce_chainText (by omega) (hfresh _ (by omega))
    have hfresh' : ∀ i < k + m, chainPlace i ∉ chainPlace (k + m) :: expanded := by
      intro i hi hmem
      rcases List.mem_cons.1 hmem with hsame | hmem
      · have := chainPlace_injective hsame
        omega
      · exact hfresh i (by omega) hmem
    obtain ⟨files, hrest⟩ := ih (by omega) hfresh'
    exact ⟨files, expandTimes_succ_eq_ok_iff.2 ⟨_, _, hpass, hrest⟩⟩

theorem textAfter_chain {n k m : ℕ} (h : k + m = n) :
    textAfter (chainStore n) ⟨"/", none⟩ (String.ofList (chainText n)) k = .ok (chainText m) := by
  subst h
  rw [textAfter_eq_ok_iff, String.toList_ofList]
  exact expandTimes_chainText (Nat.le_refl _) fun i _ => List.not_mem_nil

theorem hasDirective_chainText (i : ℕ) : HasDirective (chainText (i + 1)) := by
  have hline := newline_not_mem_chainText (i + 1)
  have hlines := splitLines_last hline (by simp [chainText])
  refine ⟨chainText (i + 1), by simp [hlines], ?_⟩
  rw [lineBody_last hline, parse?_chainText]
  exact nofun

theorem not_hasDirective_chainText_zero : ¬ HasDirective (chainText 0) := by decide

theorem expandIncludes_limit_chain :
    (∃ e, expandIncludes (chainStore 64) ⟨"/", none⟩ (String.ofList (chainText 64)) = .error e ∧
      e.message = "includes still unresolved after 64 passes") ∧
    textAfter (chainStore 63) ⟨"/", none⟩ (String.ofList (chainText 63)) 63 = .ok (chainText 0) ∧
      ¬ HasDirective (chainText 0) ∧
      expandIncludes (chainStore 63) ⟨"/", none⟩ (String.ofList (chainText 63))
        = .ok (String.ofList (chainText 0)) := by
  have hbefore := textAfter_chain (n := 64) (k := 63) (m := 1) rfl
  have hafter := textAfter_chain (n := 64) (k := 64) (m := 0) rfl
  have hdone := textAfter_chain (n := 63) (k := 63) (m := 0) rfl
  have hclear := not_hasDirective_chainText_zero
  refine ⟨(expandIncludes_limit _ _ _).1.2 ⟨_, _, hbefore, hafter, ?_, hasDirective_chainText 0⟩,
    hdone, hclear, (expandIncludes_limit _ _ _).2 63 (by decide) _ hdone hclear⟩
  decide

/-- **A chain of 64 files is given up though it is expanded:** the last pass puts in the last file,
and no directive is left in the text for which the limit is reported. -/
theorem expandIncludes_gives_up_full_chain :
    textAfter (chainStore 64) ⟨"/", none⟩ (String.ofList (chainText 64)) 64 = .ok "end".toList ∧
      ¬ HasDirective "end".toList ∧
      expandIncludes (chainStore 64) ⟨"/", none⟩ (String.ofList (chainText 64))
        = .error ⟨⟨1, 1⟩, ⟨0, 0⟩, "includes still unresolved after 64 passes"⟩ := by
  have hbefore := textAfter_chain (n := 64) (k := 63) (m := 1) rfl
  have hafter := textAfter_chain (n := 64) (k := 64) (m := 0) rfl
  refine ⟨hafter, not_hasDirective_chainText_zero, ?_⟩
  rw [expandIncludes_eq_unresolved hbefore hafter (by decide)]
  decide

end EntityForge
