import EntityForge.Proofs.Grammar.Reading

/-! # The reader of literals follows the grammar

The reader of literals accepts exactly the tokens of values, and what it builds is the literal that
the derivation means. The frames around a value are arbitrary throughout: reading a value turns the
state before it into the state after it and leaves the frames alone.

* `ValueTree.advance_tokens`: the tokens of a value are read.
* `exists_value`: what is read from the state before a value begins with the tokens of a value.
* `run_literalReader_eq_ok_iff`: the reader accepts exactly the values. -/

namespace EntityForge

open LiteralState

/-! ### Lists inside a literal -/

/-- The states inside an array. -/
def elementStates (outer : List Frame) : ListStates literalReader Literal .rbracket where
  before es := .element es outer
  after es := .elementEnd es outer
  closed es := LiteralState.after (.array es.reverse) outer
  step_comma _ _ := rfl
  step_right _ _ := rfl
  step_right_before _ _ := rfl
  cases_after := by
    rintro es ⟨t, span⟩ s h
    cases t with
    | comma => exact Or.inl rfl
    | rbracket => exact Or.inr rfl
    | _ => cases h
  result_after _ := rfl

/-- The states inside an object. -/
def fieldStates (outer : List Frame) : ListStates literalReader Property .rbrace where
  before fs := .key fs outer
  after fs := .fieldEnd fs outer
  closed fs := LiteralState.after (.object fs.reverse) outer
  step_comma _ _ := rfl
  step_right _ _ := rfl
  step_right_before _ _ := rfl
  cases_after := by
    rintro fs ⟨t, span⟩ s h
    cases t with
    | comma => exact Or.inl rfl
    | rbrace => exact Or.inr rfl
    | _ => cases h
  result_after _ := rfl

theorem elementStates_closed (outer : List Frame) (es : List Literal) :
    (elementStates outer).closed es = LiteralState.after (.array es.reverse) outer := rfl

theorem fieldStates_closed (outer : List Frame) (fs : List Property) :
    (fieldStates outer).closed fs = LiteralState.after (.object fs.reverse) outer := rfl

theorem step_element {es : List Literal} {outer : List Frame} {t : Located Token}
    (h : t.val ≠ .rbracket) : literalReader.step (.element es outer) t =
      literalReader.step (.value (.array es :: outer)) t := by
  obtain ⟨t, span⟩ := t
  cases t with
  | rbracket => exact absurd rfl h
  | _ => rfl

theorem step_key (fs : List Property) (outer : List Frame) (k : NameTree) :
    literalReader.step (.key fs outer) k.token = some (.colon fs k.name.val outer) := by
  rcases k with n | n
  · rfl
  · rfl

theorem eq_nil_of_runFrom_done {v x : Literal} {ts : List (Located Token)}
    (h : literalReader.runFrom (.done v) ts = .ok x) : ts = [] ∧ v = x := by
  rcases ts with _ | ⟨t, ts⟩
  · exact ⟨rfl, Option.some.inj (Machine.runFrom_nil_eq_ok_iff.1 h)⟩
  · obtain ⟨s, hs, -⟩ := Machine.runFrom_cons_eq_ok_iff.1 h
    cases hs

/-! ### What is derived is read -/

theorem advance_pairs (entries : Option (CommaList (PairTree ValueTree))) (closing : Span)
    (h : ∀ p ∈ itemsInside entries, ∀ outer : List Frame,
      literalReader.advance (.value outer) p.value.tokens =
        some (LiteralState.after p.value.literal outer)) (outer : List Frame) :
    literalReader.advance (.key [] outer)
        (tokensInside PairTree.tokens entries ++ [⟨.rbrace, closing⟩]) =
      some (LiteralState.after (.object ((itemsInside entries).map PairTree.property)) outer) := by
  have hpair : ∀ p ∈ itemsInside entries, ∀ fs : List Property,
      literalReader.advance (.key fs outer) p.tokens =
        some (.fieldEnd (p.property :: fs) outer) := by
    intro p hp fs
    rw [PairTree.tokens, PairTree.tokensWith, Machine.advance_cons_of (step_key fs outer p.key)]
    exact h p hp (.object fs p.key.name.val :: outer)
  have hread := (fieldStates outer).advance_inside PairTree.tokens PairTree.property entries closing
    hpair
  rw [fieldStates_closed, List.reverse_reverse] at hread
  exact hread

theorem advance_elements (entries : Option (CommaList ValueTree)) (closing : Span)
    (h : ∀ v ∈ itemsInside entries, ∀ outer : List Frame,
      literalReader.advance (.value outer) v.tokens = some (LiteralState.after v.literal outer))
    (outer : List Frame) :
    literalReader.advance (.element [] outer)
        (tokensInside ValueTree.tokens entries ++ [⟨.rbracket, closing⟩]) =
      some (LiteralState.after (.array ((itemsInside entries).map ValueTree.literal)) outer) := by
  have helement : ∀ v ∈ itemsInside entries, ∀ es : List Literal,
      literalReader.advance (.element es outer) v.tokens =
        some (.elementEnd (v.literal :: es) outer) := by
    intro v hv es
    obtain ⟨t, ts, ht, hne, -⟩ := ValueTree.startsApart v
    have hvalue := h v hv (.array es :: outer)
    rw [ht, Machine.advance_cons] at hvalue ⊢
    rw [step_element hne]
    exact hvalue
  have hread := (elementStates outer).advance_inside ValueTree.tokens ValueTree.literal entries
    closing helement
  rw [elementStates_closed, List.reverse_reverse] at hread
  exact hread

/-- **The tokens of a value are read** as the literal it means. -/
theorem ValueTree.advance_tokens (v : ValueTree) : ∀ outer : List Frame,
    literalReader.advance (.value outer) v.tokens = some (LiteralState.after v.literal outer) := by
  induction v with
  | number n => intro outer; rfl
  | string s => intro outer; rfl
  | boolean b =>
    intro outer
    obtain ⟨_ | _, span⟩ := b
    · rfl
    · rfl
  | object e ih =>
    intro outer
    rw [tokens_object, literal_object]
    exact advance_pairs e.entries e.closing ih outer
  | array e ih =>
    intro outer
    rw [tokens_array, literal_array]
    exact advance_elements e.entries e.closing ih outer

/-! ### What is read is derived -/

/-- Whatever is accepted before a value begins with a value. -/
def BeginsWithValue (x : Literal) (ts : List (Located Token)) : Prop :=
  ∀ outer, literalReader.runFrom (.value outer) ts = .ok x →
    ∃ v rest, ts = ValueTree.tokens v ++ rest ∧
      literalReader.runFrom (LiteralState.after v.literal outer) rest = .ok x

section Complete
variable {x : Literal} {n : ℕ}
  (hv : ∀ ts : List (Located Token), ts.length ≤ n → BeginsWithValue x ts)
include hv

theorem exists_pair {outer : List Frame} (fs : List Property) (ts : List (Located Token))
    (hn : ts.length ≤ n) (hx : literalReader.runFrom (.key fs outer) ts = .ok x) :
    (∃ span rest, ts = ⟨.rbrace, span⟩ :: rest) ∨ ∃ p rest, ts = PairTree.tokens p ++ rest ∧
      literalReader.runFrom (.fieldEnd (p.property :: fs) outer) rest = .ok x := by
  rcases ts with _ | ⟨⟨t, span⟩, ts⟩
  · cases hx
  obtain ⟨s, hs, hx⟩ := Machine.runFrom_cons_eq_ok_iff.1 hx
  -- after a key the colon and the value follow, whichever way the key is written
  have hkey : ∀ k : NameTree, k.token = ⟨t, span⟩ → s = .colon fs k.name.val outer →
      ∃ p rest, (⟨t, span⟩ : Located Token) :: ts = PairTree.tokens p ++ rest ∧
        literalReader.runFrom (.fieldEnd (p.property :: fs) outer) rest = .ok x := by
    rintro k hk rfl
    rcases ts with _ | ⟨⟨u, colon⟩, ts⟩
    · cases hx
    obtain ⟨s', hs', hx⟩ := Machine.runFrom_cons_eq_ok_iff.1 hx
    cases u with
    | colon =>
      cases hs'
      obtain ⟨v, rest, rfl, hr⟩ := hv ts (by simp at hn; omega) _ hx
      exact ⟨⟨k, colon, v⟩, rest, by rw [← hk]; rfl, hr⟩
    | _ => cases hs'
  cases t with
  | rbrace => exact Or.inl ⟨span, ts, rfl⟩
  | word w => exact Or.inr (hkey (.word ⟨w, span⟩) rfl (Option.some.inj hs).symm)
  | str w => exact Or.inr (hkey (.quoted ⟨w, span⟩) rfl (Option.some.inj hs).symm)
  | _ => cases hs

theorem exists_element {outer : List Frame} (es : List Literal) (ts : List (Located Token))
    (hn : ts.length ≤ n) (hx : literalReader.runFrom (.element es outer) ts = .ok x) :
    (∃ span rest, ts = ⟨.rbracket, span⟩ :: rest) ∨ ∃ v rest, ts = ValueTree.tokens v ++ rest ∧
      literalReader.runFrom (.elementEnd (v.literal :: es) outer) rest = .ok x := by
  rcases ts with _ | ⟨⟨t, span⟩, ts⟩
  · cases hx
  by_cases ht : t = .rbracket
  · subst ht
    exact Or.inl ⟨span, ts, rfl⟩
  · right
    refine hv _ hn (.array es :: outer) ?_
    rwa [Machine.runFrom_cons_eq_ok_iff, step_element ht, ← Machine.runFrom_cons_eq_ok_iff] at hx

end Complete

/-- **What is accepted before a value begins with a value.** -/
theorem exists_value (x : Literal) : ∀ (n : ℕ) (ts : List (Located Token)), ts.length ≤ n →
    BeginsWithValue x ts := by
  intro n
  induction n with
  | zero =>
    intro ts hn outer hx
    rw [List.length_eq_zero_iff.1 (Nat.le_zero.1 hn)] at hx
    cases hx
  | succ n ih =>
    intro ts hn outer hx
    rcases ts with _ | ⟨⟨t, span⟩, ts⟩
    · cases hx
    have hlen : ts.length ≤ n := by simpa using hn
    obtain ⟨s, hs, hx⟩ := Machine.runFrom_cons_eq_ok_iff.1 hx
    cases t with
    | number k => cases hs; exact ⟨.number ⟨k, span⟩, ts, rfl, hx⟩
    | str k => cases hs; exact ⟨.string ⟨k, span⟩, ts, rfl, hx⟩
    | word w =>
      by_cases h1 : w = "true"
      · subst h1
        cases hs
        exact ⟨.boolean ⟨true, span⟩, ts, rfl, hx⟩
      · by_cases h2 : w = "false"
        · subst h2
          cases hs
          exact ⟨.boolean ⟨false, span⟩, ts, rfl, hx⟩
        · simp [literalReader, LiteralState.step, begin?, h1, h2] at hs
    | lbrace =>
      cases hs
      obtain ⟨entries, closing, rest, rfl, hr⟩ := (fieldStates outer).exists_inside ts
        (fun fs us hus => exists_pair ih fs us (by omega)) hx
      exact ⟨.object ⟨span, entries, closing⟩, rest, by simp [Enclosed.tokens],
        by simpa [fieldStates_closed, Enclosed.items] using hr⟩
    | lbracket =>
      cases hs
      obtain ⟨entries, closing, rest, rfl, hr⟩ := (elementStates outer).exists_inside ts
        (fun es us hus => exists_element ih es us (by omega)) hx
      exact ⟨.array ⟨span, entries, closing⟩, rest, by simp [Enclosed.tokens],
        by simpa [elementStates_closed, Enclosed.items] using hr⟩
    | _ => cases hs

/-- What is accepted inside an object is its pairs and the closing bracket, and nothing behind
it. -/
theorem exists_pairs {x : Literal} {ts : List (Located Token)}
    (hx : literalReader.runFrom (.key [] []) ts = .ok x) :
    ∃ entries closing, ts = tokensInside PairTree.tokens entries ++ [⟨.rbrace, closing⟩] ∧
      x = .object ((itemsInside entries).map PairTree.property) := by
  obtain ⟨entries, closing, rest, rfl, hr⟩ := (fieldStates []).exists_inside ts
    (fun fs us hus => exists_pair (exists_value x ts.length) fs us hus) hx
  obtain ⟨rfl, rfl⟩ := eq_nil_of_runFrom_done hr
  exact ⟨entries, closing, rfl, by simp⟩

/-- **The reader of literals accepts exactly the values.** -/
theorem run_literalReader_eq_ok_iff {ts : List (Located Token)} {x : Literal} :
    literalReader.run ts = .ok x ↔ ∃ v : ValueTree, v.tokens = ts ∧ v.literal = x := by
  constructor
  · intro hx
    obtain ⟨v, rest, rfl, hr⟩ := exists_value x _ ts (Nat.le_refl _) [] hx
    obtain ⟨rfl, rfl⟩ := eq_nil_of_runFrom_done hr
    exact ⟨v, (List.append_nil _).symm, rfl⟩
  · rintro ⟨v, rfl, rfl⟩
    exact Machine.runFrom_eq_ok_iff.2 ⟨_, v.advance_tokens [], rfl⟩

end EntityForge
