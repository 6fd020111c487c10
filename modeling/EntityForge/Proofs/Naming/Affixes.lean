import EntityForge.Naming
import Mathlib.Data.List.Infix

/-! # Affixes and file names

A class is often named after what it is: the words "component" and "system" stand before or behind
the name proper, as often as one likes and in any mixture of letter case. No end of one of these
words begins another one, so none of them overlaps its neighbours or the name between them. What
the two scans leave is therefore the name itself, and the file is called after it alone.

* `NeverBegins`: a part of a text in which no occurrence of a word begins.
* `Apart`: words that do not overlap. `neverBegins_of_apart`: a part before such words.
* `stripWord_component_affixes`, `stripFrom_copies`: what the scans leave of affixes.
* `fileName_ignores_affixes`: affixes do not show in the name of a file. -/

namespace EntityForge

/-! ### Where a word begins -/

/-- A text in small ASCII letters. -/
def lowered (cs : List Char) : List Char :=
  cs.map Char.toLower

theorem lowered_append (a b : List Char) : lowered (a ++ b) = lowered a ++ lowered b :=
  List.map_append

theorem startsWithWord_iff {word cs : List Char} :
    startsWithWord word cs = true ↔ word <+: lowered cs := by
  rw [startsWithWord, decide_eq_true_iff, List.prefix_iff_eq_take, lowered, List.map_take, eq_comm]

/-- **A part of a text in which no occurrence of a word begins,** not even one that ends in the
rest of the text. -/
def NeverBegins (word part rest : List Char) : Prop :=
  ∀ t, t <:+ part → t ≠ [] → ¬ word <+: lowered (t ++ rest)

section Strip
variable {word part rest : List Char}

theorem NeverBegins.stripFrom_append (h : NeverBegins word part rest) :
    stripFrom word 0 (part ++ rest) = part ++ stripFrom word 0 rest := by
  induction part with
  | nil => rfl
  | cons c part ih =>
    have hstart : ¬ startsWithWord word (c :: (part ++ rest)) = true := fun hs =>
      h (c :: part) List.suffix_rfl (List.cons_ne_nil c part) (startsWithWord_iff.1 hs)
    have hpart : NeverBegins word part rest := fun t ht =>
      h t (ht.trans (List.suffix_cons c part))
    rw [List.cons_append, stripFrom, if_neg hstart, ih hpart, List.cons_append]

theorem stripFrom_length_append (word part rest : List Char) :
    stripFrom word part.length (part ++ rest) = stripFrom word 0 rest := by
  induction part with
  | nil => rfl
  | cons c part ih => exact ih

/-- **An occurrence is left out,** and the scan goes on behind it. -/
theorem stripFrom_copy (hword : word ≠ []) (hpart : lowered part = word) :
    stripFrom word 0 (part ++ rest) = stripFrom word 0 rest := by
  rcases part with _ | ⟨c, part⟩
  · exact absurd hpart.symm hword
  · have hstart : startsWithWord word (c :: (part ++ rest)) = true := by
      rw [startsWithWord_iff, ← List.cons_append, lowered_append, hpart]
      exact List.prefix_append _ _
    have hlength : word.length - 1 = part.length := by
      rw [← hpart]
      simp [lowered]
    rw [List.cons_append, stripFrom, if_pos hstart, hlength, stripFrom_length_append]

theorem stripFrom_copies (hword : word ≠ []) {ws : List (List Char)}
    (h : ∀ w ∈ ws, lowered w = word) :
    stripFrom word 0 (ws.flatten ++ rest) = stripFrom word 0 rest := by
  induction ws with
  | nil => rfl
  | cons w ws ih =>
    obtain ⟨hw, hws⟩ := List.forall_mem_cons.1 h
    rw [List.flatten_cons, List.append_assoc, stripFrom_copy hword hw, ih hws]

/-! ### Words that do not overlap -/

theorem neverBegins_of_not_mem {c : Char} (h : c ∉ lowered part) :
    NeverBegins (c :: word) part rest := by
  intro t ht hne hprefix
  obtain ⟨d, t, rfl⟩ := List.exists_cons_of_ne_nil hne
  have hhead : c = d.toLower := (List.cons_prefix_cons.1 hprefix).1
  exact h (hhead ▸ List.mem_map_of_mem (ht.subset List.mem_cons_self))

/-- **Words that do not overlap:** no end of the first one, short of the whole word, is an opening
of the second one, or goes on beyond it. -/
def Apart (word next : List Char) : Prop :=
  ∀ r ∈ word.tail.tails, r ≠ [] → ¬ r <+: next ∧ ¬ next <+: r

instance (word next : List Char) : Decidable (Apart word next) :=
  inferInstanceAs (Decidable (∀ r ∈ word.tail.tails, r ≠ [] → ¬ r <+: next ∧ ¬ next <+: r))

theorem not_prefix_of_apart {ws : List (List Char)} (h : ∀ w ∈ ws, Apart word (lowered w))
    {r : List Char} (hr : r ∈ word.tail.tails) (hne : r ≠ []) : ¬ r <+: lowered ws.flatten := by
  intro hprefix
  rcases ws with _ | ⟨w, ws⟩
  · exact hne (List.prefix_nil.1 hprefix)
  · obtain ⟨hshort, hlong⟩ := h w List.mem_cons_self r hr hne
    rw [List.flatten_cons, lowered_append] at hprefix
    exact (List.prefix_or_prefix_of_prefix hprefix (List.prefix_append _ _)).elim hshort hlong

/-- **A word does not begin in a part that does not hold it,** if only words follow that it does
not overlap. -/
theorem neverBegins_of_apart (hpart : ¬ word <:+: lowered part) {ws : List (List Char)}
    (h : ∀ w ∈ ws, Apart word (lowered w)) : NeverBegins word part ws.flatten := by
  intro t ht hne hprefix
  have hinside : ∀ u, u <+: lowered t → word ≠ u := by
    rintro u hu rfl
    exact hpart (hu.isInfix.trans (ht.map Char.toLower).isInfix)
  rw [lowered_append] at hprefix
  rcases List.prefix_or_prefix_of_prefix hprefix (List.prefix_append _ _) with hshort | ⟨r, hr⟩
  · exact hinside word hshort rfl
  · -- The occurrence ends in the words behind the part, with a piece that is not all of it.
    have hpiece : r ≠ [] := by
      rintro rfl
      exact hinside _ List.prefix_rfl (by rw [← hr, List.append_nil])
    have hend : r ∈ word.tail.tails := by
      obtain ⟨c, cs, hcs⟩ :=
        List.exists_cons_of_ne_nil (l := lowered t) (by simpa [lowered] using hne)
      rw [List.mem_tails, ← hr, hcs]
      exact List.suffix_append cs r
    rw [← hr, List.prefix_append_right_inj] at hprefix
    exact not_prefix_of_apart h hend hpiece hprefix

end Strip

/-! ### Affixes -/

/-- **A word that says what a class is,** in any mixture of letter case. -/
def IsAffix (w : List Char) : Prop :=
  lowered w = "component".toList ∨ lowered w = "system".toList

instance (w : List Char) : Decidable (IsAffix w) :=
  inferInstanceAs (Decidable (_ ∨ _))

/-- The affixes that the first scan leaves. -/
def systemAffixes (ws : List (List Char)) : List (List Char) :=
  ws.filter fun w => lowered w = "system".toList

theorem lowered_of_mem_systemAffixes {ws : List (List Char)} :
    ∀ w ∈ systemAffixes ws, lowered w = "system".toList :=
  fun _ hw => of_decide_eq_true (List.mem_filter.1 hw).2

theorem stripWord_component_affixes {ws : List (List Char)} (h : ∀ w ∈ ws, IsAffix w)
    (rest : List Char) : stripWord "component" (ws.flatten ++ rest)
      = (systemAffixes ws).flatten ++ stripWord "component" rest := by
  induction ws with
  | nil => rfl
  | cons w ws ih =>
    obtain ⟨hw, hws⟩ := List.forall_mem_cons.1 h
    have hrest := ih hws
    unfold stripWord systemAffixes at hrest ⊢
    rw [List.flatten_cons, List.append_assoc]
    rcases hw with hw | hw
    · rw [stripFrom_copy (by decide) hw, hrest, List.filter_cons_of_neg (by rw [hw]; decide)]
    · have hnever : NeverBegins "component".toList w (ws.flatten ++ rest) :=
        neverBegins_of_not_mem (c := 'c') (by rw [hw]; decide)
      rw [hnever.stripFrom_append, hrest, List.filter_cons_of_pos (by rw [hw]; decide),
        List.flatten_cons, List.append_assoc]

/-- **What the two scans leave** of a name between affixes. -/
theorem stem_affixes {before behind : List (List Char)} {name : List Char}
    (hbefore : ∀ w ∈ before, IsAffix w) (hbehind : ∀ w ∈ behind, IsAffix w) (hname : name ≠ [])
    (hcomponent : ¬ "component".toList <:+: lowered name)
    (hsystem : ¬ "system".toList <:+: lowered name) :
    stem (before.flatten ++ (name ++ behind.flatten)) = name := by
  have hfirst : stripWord "component" (before.flatten ++ (name ++ behind.flatten))
      = (systemAffixes before).flatten ++ (name ++ (systemAffixes behind).flatten) := by
    have hapart : ∀ w ∈ behind, Apart "component".toList (lowered w) := by
      intro w hw
      rcases hbehind w hw with hw | hw
      · rw [hw]
        decide
      · rw [hw]
        decide
    have hkept : stripWord "component" (name ++ behind.flatten)
        = name ++ stripWord "component" behind.flatten :=
      (neverBegins_of_apart hcomponent hapart).stripFrom_append
    have hlast := stripWord_component_affixes hbehind []
    simp only [List.append_nil] at hlast
    rw [stripWord_component_affixes hbefore, hkept, hlast]
    exact congrArg _ (congrArg _ (List.append_nil _))
  have hsecond : stripWord "system"
      ((systemAffixes before).flatten ++ (name ++ (systemAffixes behind).flatten)) = name := by
    have hapart : ∀ w ∈ systemAffixes behind, Apart "system".toList (lowered w) := by
      intro w hw
      rw [lowered_of_mem_systemAffixes w hw]
      decide
    have hlast : stripFrom "system".toList 0 ((systemAffixes behind).flatten ++ [])
        = stripFrom "system".toList 0 [] :=
      stripFrom_copies (by decide) lowered_of_mem_systemAffixes
    rw [List.append_nil] at hlast
    rw [stripWord, stripFrom_copies (by decide) lowered_of_mem_systemAffixes,
      (neverBegins_of_apart hsystem hapart).stripFrom_append, hlast]
    exact List.append_nil name
  unfold stem
  rw [hfirst, hsecond]
  exact if_neg hname

/-- **Affixes do not show in the name of a file.** Whatever words "component" and "system" stand
before and behind a name that holds neither of them, the file is called like that of the name alone,
which is the whole name in small letters with its hyphens. -/
theorem fileName_ignores_affixes {before behind : List String} {name : String}
    (hbefore : ∀ w ∈ before, IsAffix w.toList) (hbehind : ∀ w ∈ behind, IsAffix w.toList)
    (hname : name ≠ "") (hcomponent : ¬ "component".toList <:+: lowered name.toList)
    (hsystem : ¬ "system".toList <:+: lowered name.toList) (extension : String) :
    fileName (String.join before ++ name ++ String.join behind) extension
      = fileName name extension ∧
    fileName name extension = String.ofList (hyphenated name.toList) ++ "." ++ extension := by
  have hnil : name.toList ≠ [] := by simpa using hname
  have hchars : (String.join before ++ name ++ String.join behind).toList
      = (before.map String.toList).flatten
        ++ (name.toList ++ (behind.map String.toList).flatten) := by
    simp [List.flatMap_def]
  have hstem := stem_affixes (List.forall_mem_map.2 hbefore) (List.forall_mem_map.2 hbehind) hnil
    hcomponent hsystem
  have hnone : ∀ w ∈ ([] : List (List Char)), IsAffix w := by simp
  have halone : stem name.toList = name.toList := by
    simpa using stem_affixes hnone hnone hnil hcomponent hsystem
  exact ⟨by rw [fileName, fileName, hchars, hstem, halone], by rw [fileName, halone]⟩

/-- A name that ends like one of the words and begins like the other is kept between them. -/
theorem fileName_ignores_affixes_cut :
    (∀ w ∈ ["SYStem", "COMPonent"], IsAffix w.toList) ∧
    (∀ w ∈ ["cOMPONENT", "System"], IsAffix w.toList) ∧
    ¬ "component".toList <:+: lowered "temNéon日SysCompo".toList ∧
    ¬ "system".toList <:+: lowered "temNéon日SysCompo".toList ∧
    fileName "SYStemCOMPonenttemNéon日SysCompocOMPONENTSystem" "ts" = "tem-néon日sys-compo.ts" := by
  have hbefore : ∀ w ∈ ["SYStem", "COMPonent"], IsAffix w.toList := by decide
  have hbehind : ∀ w ∈ ["cOMPONENT", "System"], IsAffix w.toList := by decide
  have hcomponent : ¬ "component".toList <:+: lowered "temNéon日SysCompo".toList := by decide
  have hsystem : ¬ "system".toList <:+: lowered "temNéon日SysCompo".toList := by decide
  obtain ⟨hsame, hfile⟩ :=
    fileName_ignores_affixes hbefore hbehind (by decide) hcomponent hsystem "ts"
  have hvalue : String.ofList (hyphenated "temNéon日SysCompo".toList) ++ "." ++ "ts"
      = "tem-néon日sys-compo.ts" := by decide +kernel
  exact ⟨hbefore, hbehind, hcomponent, hsystem, hsame.trans (hfile.trans hvalue)⟩

end EntityForge
