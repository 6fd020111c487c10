import EntityForge.Proofs.Build.FileNames
import EntityForge.Proofs.Naming.Affixes
import Mathlib.Data.List.Chain

/-! # The shape of file names

The file of a name is made of the name's own characters: those of the words "component" and "system"
are taken out, capitals become small, and hyphens are put in. A hyphen stands only before a capital
that has something before it, so hyphens come one at a time, between other characters, and a letter
follows each of them.

* `Leaves`: what is left of a text without a word, `leaves_stripFrom`: the scan leaves it.
* `IsKebab`: the shape. `isKebab_hyphenated`: names have it.
* `Hyphenates`: how a file name spells a text. `hyphenates_hyphenated`: nothing but hyphens is
  added.
* `mem_wordPattern_of_readProgram`: the names of a source text are words. -/

namespace EntityForge

open Text

/-! ### What is taken out -/

/-- **What is left of a text** if the occurrences of a word are taken out one after the other, in
any mixture of ASCII letter case: each time the first one, and then those of the text behind it. -/
inductive Leaves (word : List Char) : List Char → List Char → Prop
  | all {cs : List Char} (h : ¬ word <:+: lowered cs) : Leaves word cs cs
  | copy {before copy rest left : List Char} (hfirst : NeverBegins word before (copy ++ rest))
      (hcopy : lowered copy = word) (h : Leaves word rest left) :
      Leaves word (before ++ (copy ++ rest)) (before ++ left)

section Leaves
variable {word cs left : List Char}

theorem Leaves.cons {c : Char} (hstart : ¬ word <+: lowered (c :: cs)) (h : Leaves word cs left) :
    Leaves word (c :: cs) (c :: left) := by
  cases h with
  | all h => exact .all fun hinfix => (List.infix_cons_iff.1 hinfix).elim hstart h
  | @copy before copy rest left hfirst hcopy h =>
    have hlater : NeverBegins word (c :: before) (copy ++ rest) := by
      intro t ht hne
      rcases List.suffix_cons_iff.1 ht with rfl | ht
      · exact hstart
      · exact hfirst t ht hne
    exact Leaves.copy hlater hcopy h

theorem leaves_stripFrom (hword : word ≠ []) (skip : ℕ) (cs : List Char) :
    Leaves word (cs.drop skip) (stripFrom word skip cs) := by
  fun_induction stripFrom word skip cs with
  | case1 skip =>
    rw [List.drop_nil]
    exact .all fun h => hword (List.infix_nil.1 h)
  | case2 skip c cs ih => exact ih
  | case3 c cs hstart ih =>
    have hcopy : lowered ((c :: cs).take word.length) = word := of_decide_eq_true hstart
    have hrest : (c :: cs).drop word.length = cs.drop (word.length - 1) := by
      obtain ⟨d, ds, rfl⟩ := List.exists_cons_of_ne_nil hword
      rfl
    have hnever : NeverBegins word [] ((c :: cs).take word.length ++ cs.drop (word.length - 1)) :=
      fun t ht hne => absurd (List.suffix_nil.1 ht) hne
    have hleaves := Leaves.copy hnever hcopy ih
    rwa [← hrest, List.nil_append, List.take_append_drop] at hleaves
  | case4 c cs hstart ih => exact ih.cons fun h => hstart (startsWithWord_iff.2 h)

theorem Leaves.stripFrom_eq (hword : word ≠ []) (h : Leaves word cs left) :
    stripFrom word 0 cs = left := by
  induction h with
  | @all cs h =>
    have hnever : NeverBegins word cs [] := by
      intro t ht _ hbegins
      rw [List.append_nil] at hbegins
      exact h (hbegins.isInfix.trans (ht.map Char.toLower).isInfix)
    have hkept := hnever.stripFrom_append
    rwa [List.append_nil, stripFrom, List.append_nil] at hkept
  | copy hfirst hcopy _ ih => rw [hfirst.stripFrom_append, stripFrom_copy hword hcopy, ih]

/-- **There is one text that is left,** and the scan finds it. -/
theorem leaves_iff (hword : word ≠ []) : Leaves word cs left ↔ left = stripFrom word 0 cs :=
  ⟨fun h => (h.stripFrom_eq hword).symm, fun h => h ▸ leaves_stripFrom hword 0 cs⟩

end Leaves

/-! ### Hyphens -/

/-- **A capital that starts a further word** between its neighbours: after a small letter, or before
one if a capital or a digit precedes it. -/
def StartsWord (before : Option Char) (c : Char) (after : Option Char) : Prop :=
  c.isUpper = true ∧ ∃ b ∈ before, b.isLower = true ∨
    (b.isUpper = true ∨ b.isDigit = true) ∧ ∃ a ∈ after, a.isLower = true

instance (before : Option Char) (c : Char) (after : Option Char) :
    Decidable (StartsWord before c after) :=
  inferInstanceAs (Decidable (_ ∧ ∃ b ∈ before, _ ∨ _ ∧ ∃ a ∈ after, _))

/-- What is written before a character. -/
def hyphenBefore (before : Option Char) (c : Char) (after : Option Char) : List Char :=
  if StartsWord before c after then ['-'] else []

theorem hyphenBefore_none (c : Char) (after : Option Char) : hyphenBefore none c after = [] :=
  if_neg fun h => by simpa using h.2

/-- A text without its hyphens. -/
def unhyphenated (cs : List Char) : List Char :=
  cs.filter (· ≠ '-')

theorem unhyphenated_append (a b : List Char) :
    unhyphenated (a ++ b) = unhyphenated a ++ unhyphenated b :=
  List.filter_append ..

theorem unhyphenated_hyphenBefore (before : Option Char) (c : Char) (after : Option Char) :
    unhyphenated (hyphenBefore before c after) = [] := by
  unfold hyphenBefore
  split <;> rfl

section WordChars
variable {c : Char} (hc : isWordChar c = true)
include hc

theorem isUpper_of_isWordChar : Text.isUpper c = c.isUpper :=
  if_pos (toNat_lt_of_isWordChar hc)

theorem isLower_of_isWordChar : Text.isLower c = c.isLower :=
  if_pos (toNat_lt_of_isWordChar hc)

theorem toLower_ne_hyphen : c.toLower ≠ '-' :=
  forall_isWordChar (P := fun c => c.toLower ≠ '-') (by decide) hc

theorem toLower_of_not_isUpper (hupper : c.isUpper = false) : c.toLower = c :=
  forall_isWordChar (P := fun c => c.isUpper = false → c.toLower = c) (by decide) hc hupper

theorem isLower_toLower (hupper : c.isUpper = true) : c.toLower.isLower = true :=
  forall_isWordChar (P := fun c => c.isUpper = true → c.toLower.isLower = true) (by decide) hc
    hupper

theorem startsWord_iff {before after : Option Char} (hbefore : ∀ b ∈ before, isWordChar b = true)
    (hafter : ∀ a ∈ after, isWordChar a = true) : StartsWord before c after ↔
      Text.isUpper c = true ∧ before.any (beginsWord · after) = true := by
  have hsmall : after.any Text.isLower = true ↔ ∃ a ∈ after, a.isLower = true := by
    rw [Option.any_eq_true]
    refine exists_congr fun a => and_congr_right fun ha => ?_
    rw [isLower_of_isWordChar (hafter a ha)]
  rw [StartsWord, isUpper_of_isWordChar hc, Option.any_eq_true]
  refine and_congr_right fun _ => exists_congr fun b => and_congr_right fun hb => ?_
  have hword := hbefore b hb
  rw [beginsWord, isUpper_of_isWordChar hword, isLower_of_isWordChar hword, Bool.or_eq_true,
    Bool.and_eq_true, Bool.or_eq_true, hsmall]

end WordChars

theorem isWordChar_of_mem_none : ∀ b ∈ (none : Option Char), isWordChar b = true := by simp

theorem isWordChar_of_mem_some {c : Char} (hc : isWordChar c = true) :
    ∀ b ∈ some c, isWordChar b = true := by simpa using hc

/-- **One character of a name:** a hyphen if it starts a word, and itself in small letters. -/
theorem hyphenatedFrom_cons {before : Option Char} {c : Char} {cs : List Char}
    (hbefore : ∀ b ∈ before, isWordChar b = true) (h : ∀ x ∈ c :: cs, isWordChar x = true) :
    hyphenatedFrom before (c :: cs)
      = hyphenBefore before c cs.head? ++ c.toLower :: hyphenatedFrom (some c) cs := by
  obtain ⟨hc, hcs⟩ := List.forall_mem_cons.1 h
  have hstarts := startsWord_iff hc hbefore fun a ha => hcs a (List.mem_of_mem_head? ha)
  rw [hyphenatedFrom, hyphenBefore]
  by_cases hupper : Text.isUpper c = true
  · have hlower : lower c = [c.toLower] := if_pos (toNat_lt_of_isWordChar hc)
    simp [hstarts, hupper, hlower]
  · have hsame : c.toLower = c := by
      rw [isUpper_of_isWordChar hc, Bool.not_eq_true] at hupper
      exact toLower_of_not_isUpper hc hupper
    simp [hstarts, hupper, hsame]

section Hyphenated
variable {before : Option Char} {cs : List Char} (hbefore : ∀ b ∈ before, isWordChar b = true)
  (hcs : ∀ c ∈ cs, isWordChar c = true)
include hbefore hcs

/-- **Nothing but hyphens is added.** -/
theorem unhyphenated_hyphenatedFrom : unhyphenated (hyphenatedFrom before cs) = lowered cs := by
  induction cs generalizing before with
  | nil => rfl
  | cons c cs ih =>
    obtain ⟨hc, hrest⟩ := List.forall_mem_cons.1 hcs
    have hkept : unhyphenated (c.toLower :: hyphenatedFrom (some c) cs)
        = c.toLower :: unhyphenated (hyphenatedFrom (some c) cs) :=
      List.filter_cons_of_pos (by simpa using toLower_ne_hyphen hc)
    rw [hyphenatedFrom_cons hbefore hcs, unhyphenated_append, unhyphenated_hyphenBefore, hkept,
      ih (isWordChar_of_mem_some hc) hrest]
    rfl

/-- **A letter follows every hyphen** that something follows. -/
theorem isChain_hyphenatedFrom :
    (hyphenatedFrom before cs).IsChain fun x y => x = '-' → y.isLower = true := by
  induction cs generalizing before with
  | nil => exact .nil
  | cons c cs ih =>
    obtain ⟨hc, hrest⟩ := List.forall_mem_cons.1 hcs
    have htail : (c.toLower :: hyphenatedFrom (some c) cs).IsChain
        fun x y => x = '-' → y.isLower = true :=
      List.isChain_cons.2
        ⟨fun y _ hx => absurd hx (toLower_ne_hyphen hc), ih (isWordChar_of_mem_some hc) hrest⟩
    rw [hyphenatedFrom_cons hbefore hcs, hyphenBefore]
    split
    · next hstarts =>
      refine List.isChain_cons.2 ⟨fun y hy _ => ?_, htail⟩
      obtain rfl : c.toLower = y := by simpa using hy
      exact isLower_toLower hc hstarts.1
    · exact htail

/-- **Cutting a text before a character** cuts its spelling before what that character adds. -/
theorem exists_hyphenatedFrom_append {u v : List Char} {c : Char} (heq : cs = u ++ c :: v) :
    ∃ x, hyphenatedFrom before cs = x ++ hyphenatedFrom (u.getLast?.or before) (c :: v) ∧
      unhyphenated x = lowered u ∧ x.getLast? ≠ some '-' := by
  subst heq
  induction u generalizing before with
  | nil => exact ⟨[], rfl, rfl, by simp⟩
  | cons d u ih =>
    rw [List.cons_append] at hcs ⊢
    obtain ⟨hd, hrest⟩ := List.forall_mem_cons.1 hcs
    obtain ⟨x, hx, hletters, hlast⟩ := ih (isWordChar_of_mem_some hd) hrest
    refine ⟨hyphenBefore before d (u ++ c :: v).head? ++ d.toLower :: x, ?_, ?_, ?_⟩
    · have hlastu : (d :: u).getLast?.or before = u.getLast?.or (some d) := by
        rw [List.getLast?_cons]
        cases u.getLast? <;> rfl
      rw [hyphenatedFrom_cons hbefore hcs, hx, hlastu, List.append_assoc, List.cons_append]
    · have hkept : unhyphenated (d.toLower :: x) = d.toLower :: unhyphenated x :=
        List.filter_cons_of_pos (by simpa using toLower_ne_hyphen hd)
      rw [unhyphenated_append, unhyphenated_hyphenBefore, hkept, hletters]
      rfl
    · rw [List.getLast?_append_of_ne_nil _ (List.cons_ne_nil _ _), List.getLast?_cons]
      rcases hx : x.getLast? with _ | y
      · simpa using toLower_ne_hyphen hd
      · rw [hx] at hlast
        simpa using hlast

end Hyphenated

/-! ### The shape of a name -/

/-- `[a-z0-9_$-]`. -/
def isKebabChar (c : Char) : Bool :=
  c.isLower || c.isDigit || c = '_' || c = '$' || c = '-'

/-- **Small letters, digits, underscores and dollars with single hyphens between them,** each of
them before a letter. -/
structure IsKebab (k : List Char) : Prop where
  nonempty : k ≠ []
  chars : ∀ c ∈ k, isKebabChar c = true
  first : k.head? ≠ some '-'
  last : k.getLast? ≠ some '-'
  single : ¬ ['-', '-'] <:+: k
  letters : ∀ before c after, k = before ++ '-' :: c :: after → c.isLower = true

/-- **How a text is spelled in small letters with hyphens:** its characters are all there, and
before each of them stands a hyphen exactly if it starts a word. -/
structure Hyphenates (text k : List Char) : Prop where
  characters : unhyphenated k = lowered text
  hyphens : ∀ u c v, text = u ++ c :: v → ∃ x y,
    k = x ++ (hyphenBefore u.getLast? c v.head? ++ c.toLower :: y) ∧
      unhyphenated x = lowered u ∧ x.getLast? ≠ some '-' ∧ unhyphenated y = lowered v

section Shape
variable {cs : List Char} (hcs : ∀ c ∈ cs, isWordChar c = true)
include hcs

theorem exists_hyphenated_append {u v : List Char} {c : Char} (heq : cs = u ++ c :: v) :
    ∃ x, hyphenated cs = x ++ (hyphenBefore u.getLast? c v.head?
        ++ c.toLower :: hyphenatedFrom (some c) v) ∧
      unhyphenated x = lowered u ∧ x.getLast? ≠ some '-' := by
  obtain ⟨x, hx, hletters, hlast⟩ := exists_hyphenatedFrom_append isWordChar_of_mem_none hcs heq
  have hu : ∀ b ∈ u.getLast?, isWordChar b = true := fun b hb =>
    hcs b (heq ▸ List.mem_append_left _ (List.mem_of_mem_getLast? hb))
  have hv : ∀ x ∈ c :: v, isWordChar x = true := fun x hx =>
    hcs x (heq ▸ List.mem_append_right _ hx)
  rw [Option.or_none, hyphenatedFrom_cons hu hv] at hx
  exact ⟨x, hx, hletters, hlast⟩

theorem hyphenates_hyphenated : Hyphenates cs (hyphenated cs) where
  characters := unhyphenated_hyphenatedFrom isWordChar_of_mem_none hcs
  hyphens u c v heq := by
    obtain ⟨x, hx, hletters, hlast⟩ := exists_hyphenated_append hcs heq
    obtain ⟨hc, hv⟩ := List.forall_mem_cons.1 (List.forall_mem_append.1 (heq ▸ hcs)).2
    exact ⟨x, _, hx, hletters, hlast, unhyphenated_hyphenatedFrom (isWordChar_of_mem_some hc) hv⟩

theorem isKebab_hyphenated (hne : cs ≠ []) : IsKebab (hyphenated cs) := by
  have hhyphenates := hyphenates_hyphenated hcs
  have hchain := isChain_hyphenatedFrom isWordChar_of_mem_none hcs
  refine ⟨?_, fun c hc => ?_, ?_, ?_, fun hinfix => ?_, fun before c after heq => ?_⟩
  · intro hnil
    have hletters := hhyphenates.characters
    rw [hnil] at hletters
    exact hne (List.map_eq_nil_iff.1 hletters.symm)
  · by_cases hhyphen : c = '-'
    · rw [hhyphen]
      decide
    · have hmem : c ∈ unhyphenated (hyphenated cs) := List.mem_filter.2 ⟨hc, by simpa using hhyphen⟩
      rw [hhyphenates.characters] at hmem
      obtain ⟨d, hd, rfl⟩ := List.mem_map.1 hmem
      exact forall_isWordChar (P := fun c => isKebabChar c.toLower = true) (by decide) (hcs d hd)
  · obtain ⟨c, rest, rfl⟩ := List.exists_cons_of_ne_nil hne
    rw [hyphenated, hyphenatedFrom_cons isWordChar_of_mem_none hcs, hyphenBefore_none]
    simpa using toLower_ne_hyphen (hcs c List.mem_cons_self)
  · -- The last character of the text is written last, with a hyphen before it at most.
    obtain ⟨init, c, heq⟩ := (List.eq_nil_or_concat cs).resolve_left hne
    rw [List.concat_eq_append] at heq
    obtain ⟨x, hk, -, -⟩ := exists_hyphenated_append hcs heq
    have hc := hcs c (heq ▸ List.mem_append_right _ List.mem_cons_self)
    rw [hk, hyphenatedFrom, ← List.append_assoc, List.getLast?_concat]
    simpa using toLower_ne_hyphen hc
  · have hpair : ['-', '-'].IsChain fun x y => x = '-' → y.isLower = true := hchain.infix hinfix
    exact absurd ((List.isChain_cons_cons.1 hpair).1 rfl) (by decide)
  · have hafter := hchain
    rw [show hyphenatedFrom none cs = hyphenated cs from rfl, heq,
      List.isChain_append_cons_cons] at hafter
    exact hafter.2.1 rfl

end Shape

theorem stem_eq_of_leaves {name once twice : List Char}
    (honce : Leaves "component".toList name once) (htwice : Leaves "system".toList once twice) :
    stem name = if twice = [] then name else twice := by
  rw [stem, stripWord, stripWord, honce.stripFrom_eq (by decide), htwice.stripFrom_eq (by decide)]

theorem stem_ne_nil {name : List Char} (h : name ≠ []) : stem name ≠ [] := by
  unfold stem
  dsimp only
  split
  · exact h
  · assumption

/-! ### The files of a source text -/

/-- The names of a program that files are called after: those of components, of systems, and of the
instances in templates. -/
def Program.filedNames (p : Program) : List String :=
  p.components.map (·.name.val) ++ p.systems.map (·.name.val)
    ++ p.templates.flatMap fun t => t.instances.map (·.name.val)

theorem mem_wordPattern_of_readProgram {source : String} {p : Program}
    (h : readProgram source = .ok p) : ∀ name ∈ p.filedNames, name.toList ∈ wordPattern := by
  obtain ⟨d, htokens, name, span, -, rfl⟩ :=
    parseDescription_eq_ok_iff.1 (parseDescription_of_readProgram h)
  have hword : ∀ n : Name, n.token ∈ d.tokens → n.val.toList ∈ wordPattern := fun n hn =>
    mem_wordPattern_of_mem_scan (htokens ▸ hn) rfl
  intro name hname
  rcases List.mem_append.1 hname with hname | hname
  · rcases List.mem_append.1 hname with hname | hname
    · obtain ⟨c, hc, rfl⟩ := List.mem_map.1 hname
      exact hword c.name (DescriptionTree.token_mem_of_component hc)
    · obtain ⟨s, hs, rfl⟩ := List.mem_map.1 hname
      exact hword s.name (DescriptionTree.token_mem_of_system hs)
  · obtain ⟨t, ht, hname⟩ := List.mem_flatMap.1 hname
    obtain ⟨c, hc, rfl⟩ := List.mem_map.1 hname
    exact hword c.name ((DescriptionTree.token_mem_of_template ht).2 c hc)

end EntityForge
