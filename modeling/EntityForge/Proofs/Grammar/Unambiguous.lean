import EntityForge.Proofs.Grammar.Tree

/-! # The grammar is unambiguous

A list of tokens has at most one derivation. All rules but the topmost are also free of prefixes:
what one tree derives never begins with what another tree of the same rule derives. This is shown
rule by rule, from the token that decides between the alternatives.

* `PrefixFree f a`: no list of tokens begins with `f a` and with `f b` for another `b`.
* `ValueTree.prefixFree`, `DeclarationTree.prefixFree`: the rules for values and declarations.
* `DescriptionTree.tokens_injective`: a list of tokens derives from one description only. -/

namespace EntityForge

/-- **The tokens of `a` are told apart** from those of any other tree by what they are. -/
def PrefixFree {α : Type} (f : α → List (Located Token)) (a : α) : Prop :=
  ∀ b r r', f a ++ r = f b ++ r' → a = b ∧ r = r'

/-! ### Lists with commas -/

/-- A comma that may be missing is told apart by the token behind it. -/
theorem optionalComma_inj {c c' : Option Span} {t t' : Located Token} {r r' : List (Located Token)}
    (ht : t.val ≠ .comma) (ht' : t'.val ≠ .comma)
    (h : optionalComma c ++ t :: r = optionalComma c' ++ t' :: r') :
    c = c' ∧ t = t' ∧ r = r' := by
  rcases c with _ | c <;> rcases c' with _ | c'
  · simpa using h
  · rw [optionalComma_none, optionalComma_some, List.nil_append, List.singleton_append] at h
    exact absurd (congrArg Located.val (List.cons.inj h).1) ht
  · rw [optionalComma_none, optionalComma_some, List.nil_append, List.singleton_append] at h
    exact absurd (congrArg Located.val (List.cons.inj h).1).symm ht'
  · simpa using h

section Lists
variable {α : Type} {f : α → List (Located Token)} {right : Token} (hr : right ≠ .comma)
  (hs : StartsApart f right)
include hr hs

theorem tokensBehindCommas_cons_ne (p : Span × α) (others : List (Span × α)) (c : Option Span)
    (closing : Span) (r r' : List (Located Token)) :
    tokensBehindCommas f (p :: others) ++ r ≠ optionalComma c ++ ⟨right, closing⟩ :: r' := by
  intro h
  obtain ⟨t, ts, hf, ht, -⟩ := hs p.2
  rw [tokensBehindCommas_cons, hf] at h
  rcases c with _ | c
  · exact hr (congrArg Located.val (List.cons.inj h).1).symm
  · exact ht (congrArg Located.val (List.cons.inj (List.cons.inj h).2).1)

theorem tokensBehindCommas_inj : ∀ {others others' : List (Span × α)} {c c' : Option Span}
    {closing closing' : Span} {r r' : List (Located Token)}, (∀ p ∈ others, PrefixFree f p.2) →
      tokensBehindCommas f others ++ (optionalComma c ++ ⟨right, closing⟩ :: r) =
        tokensBehindCommas f others' ++ (optionalComma c' ++ ⟨right, closing'⟩ :: r') →
      others = others' ∧ c = c' ∧ closing = closing' ∧ r = r'
  | [], [], c, c', closing, closing', r, r', _, h => by
    obtain ⟨hc, ht, hr⟩ := optionalComma_inj hr hr h
    exact ⟨rfl, hc, congrArg Located.span ht, hr⟩
  | [], p' :: others', c, c', closing, closing', r, r', _, h =>
    absurd h.symm (tokensBehindCommas_cons_ne hr hs _ _ _ _ _ _)
  | p :: others, [], c, c', closing, closing', r, r', _, h =>
    absurd h (tokensBehindCommas_cons_ne hr hs _ _ _ _ _ _)
  | p :: others, p' :: others', c, c', closing, closing', r, r', hf, h => by
    obtain ⟨hp, ho⟩ := List.forall_mem_cons.1 hf
    simp only [tokensBehindCommas_cons, List.cons_append, List.append_assoc] at h
    obtain ⟨hcomma, h⟩ := List.cons.inj h
    obtain ⟨hentry, h⟩ := hp _ _ _ h
    obtain ⟨hothers, hrest⟩ := tokensBehindCommas_inj ho h
    have hspan : p.1 = p'.1 := congrArg Located.span hcomma
    exact ⟨by rw [hothers, Prod.ext hspan hentry], hrest⟩

/-- **A list in brackets is told apart** if each of its entries is. -/
theorem Enclosed.prefixFree {left : Token} (e : Enclosed α) (hf : ∀ a ∈ e.items, PrefixFree f a) :
    PrefixFree (Enclosed.tokens f left right) e := by
  intro e' r r' h
  obtain ⟨opening, entries, closing⟩ := e
  obtain ⟨opening', entries', closing'⟩ := e'
  simp only [Enclosed.tokens, List.cons_append, List.append_assoc, List.nil_append] at h
  obtain ⟨hopen, hin⟩ := List.cons.inj h
  cases congrArg Located.span hopen
  clear h hopen
  rcases entries with _ | ⟨first, others, c⟩ <;> rcases entries' with _ | ⟨first', others', c'⟩
  · simpa using hin
  · obtain ⟨t, ts, hf', ht, -⟩ := hs first'
    simp only [tokensInside_none, tokensInside_some, CommaList.tokens, hf'] at hin
    exact absurd (congrArg Located.val (List.cons.inj hin).1).symm ht
  · obtain ⟨t, ts, hf', ht, -⟩ := hs first
    simp only [tokensInside_none, tokensInside_some, CommaList.tokens, hf'] at hin
    exact absurd (congrArg Located.val (List.cons.inj hin).1) ht
  · obtain ⟨hfirst, hothers⟩ := List.forall_mem_cons.1 hf
    simp only [tokensInside_some, CommaList.tokens, List.append_assoc] at hin
    obtain ⟨rfl, hrest⟩ := hfirst _ _ _ hin
    obtain ⟨rfl, rfl, rfl, rfl⟩ := tokensBehindCommas_inj hr hs
      (fun p hp => hothers p.2 (List.mem_map_of_mem hp)) hrest
    exact ⟨rfl, rfl⟩

end Lists

/-! ### Values -/

theorem NameTree.token_injective : ∀ {k k' : NameTree}, k.token = k'.token → k = k'
  | .word n, .word n', h => by
    obtain ⟨hv, hs⟩ := Located.mk.inj h
    obtain ⟨v, s⟩ := n
    cases Token.word.inj hv
    cases hs
    rfl
  | .quoted n, .quoted n', h => by
    obtain ⟨hv, hs⟩ := Located.mk.inj h
    obtain ⟨v, s⟩ := n
    cases Token.str.inj hv
    cases hs
    rfl
  | .word n, .quoted n', h => by cases (Located.mk.inj h).1
  | .quoted n, .word n', h => by cases (Located.mk.inj h).1

theorem PairTree.prefixFree {p : PairTree ValueTree} (hv : PrefixFree ValueTree.tokens p.value) :
    PrefixFree PairTree.tokens p := by
  rintro ⟨key', colon', v'⟩ r r' h
  obtain ⟨key, colon, v⟩ := p
  simp only [PairTree.tokens, PairTree.tokensWith, List.cons_append] at h
  obtain ⟨hk, h⟩ := List.cons.inj h
  obtain ⟨hc, h⟩ := List.cons.inj h
  obtain ⟨rfl, rfl⟩ := hv _ _ _ h
  cases NameTree.token_injective hk
  cases congrArg Located.span hc
  exact ⟨rfl, rfl⟩

namespace ValueTree

/-- **A value is told apart** from any other. -/
theorem prefixFree (v : ValueTree) : PrefixFree tokens v := by
  induction v with
  | number n =>
    obtain ⟨spelling, span⟩ := n
    rintro (⟨spelling', span'⟩ | s' | b' | e' | e') r r' h <;>
      simp only [tokens, tokens_object, tokens_array, Enclosed.tokens, List.cons_append,
        List.nil_append, List.cons.injEq, Located.mk.injEq, Token.number.injEq, reduceCtorEq,
        false_and] at h
    obtain ⟨⟨rfl, rfl⟩, rfl⟩ := h
    exact ⟨rfl, rfl⟩
  | string s =>
    obtain ⟨content, span⟩ := s
    rintro (n' | ⟨content', span'⟩ | b' | e' | e') r r' h <;>
      simp only [tokens, tokens_object, tokens_array, Enclosed.tokens, List.cons_append,
        List.nil_append, List.cons.injEq, Located.mk.injEq, Token.str.injEq, reduceCtorEq,
        false_and] at h
    obtain ⟨⟨rfl, rfl⟩, rfl⟩ := h
    exact ⟨rfl, rfl⟩
  | boolean b =>
    obtain ⟨truth, span⟩ := b
    rintro (n' | s' | ⟨truth', span'⟩ | e' | e') r r' h <;>
      simp only [tokens, tokens_object, tokens_array, Enclosed.tokens, List.cons_append,
        List.nil_append, List.cons.injEq, Located.mk.injEq, Token.word.injEq, reduceCtorEq,
        false_and] at h
    obtain ⟨⟨ht, rfl⟩, rfl⟩ := h
    cases truth <;> cases truth' <;> simp at ht ⊢
  | object e ih =>
    rintro (n' | s' | b' | e' | e') r r' h <;> rw [tokens_object] at h
    · simp [tokens, Enclosed.tokens] at h
    · simp [tokens, Enclosed.tokens] at h
    · simp [tokens, Enclosed.tokens] at h
    · rw [tokens_object] at h
      obtain ⟨rfl, rfl⟩ := Enclosed.prefixFree (by decide) PairTree.startsApart e
        (fun p hp => PairTree.prefixFree (ih p hp)) _ _ _ h
      exact ⟨rfl, rfl⟩
    · simp [Enclosed.tokens] at h
  | array e ih =>
    rintro (n' | s' | b' | e' | e') r r' h <;> rw [tokens_array] at h
    · simp [tokens, Enclosed.tokens] at h
    · simp [tokens, Enclosed.tokens] at h
    · simp [tokens, Enclosed.tokens] at h
    · simp [Enclosed.tokens] at h
    · rw [tokens_array] at h
      obtain ⟨rfl, rfl⟩ := Enclosed.prefixFree (by decide) startsApart e ih _ _ _ h
      exact ⟨rfl, rfl⟩

end ValueTree

/-! ### Declarations -/

theorem Name.token_injective {n n' : Name} (h : n.token = n'.token) : n = n' := by
  obtain ⟨v, span⟩ := n
  obtain ⟨v', span'⟩ := n'
  obtain ⟨hv, rfl⟩ := Located.mk.inj h
  cases Token.word.inj hv
  rfl

theorem PropertiesTree.prefixFree (e : PropertiesTree) : PrefixFree PropertiesTree.tokens e :=
  Enclosed.prefixFree (by decide) PairTree.startsApart e fun p _ =>
    PairTree.prefixFree p.value.prefixFree

theorem ComponentTree.prefixFree (c : ComponentTree) : PrefixFree ComponentTree.tokens c := by
  rintro ⟨name', properties'⟩ r r' h
  obtain ⟨name, properties⟩ := c
  simp only [ComponentTree.tokens, List.cons_append] at h
  obtain ⟨hn, hp⟩ := List.cons.inj h
  cases Name.token_injective hn
  obtain ⟨rfl, rfl⟩ := properties.prefixFree _ _ _ hp
  exact ⟨rfl, rfl⟩

theorem parentTokens_inj {p p' : Option ParentTree} {left left' : Span}
    {r r' : List (Located Token)}
    (h : parentTokens p ++ ⟨.lbrace, left⟩ :: r = parentTokens p' ++ ⟨.lbrace, left'⟩ :: r') :
    p = p' ∧ left = left' ∧ r = r' := by
  rcases p with _ | ⟨keyword, name⟩ <;> rcases p' with _ | ⟨keyword', name'⟩
  · simpa [parentTokens] using h
  · simp [parentTokens] at h
  · simp [parentTokens] at h
  · simp only [parentTokens, List.cons_append, List.nil_append, List.cons.injEq] at h
    obtain ⟨hk, hn, hl, hr⟩ := h
    cases congrArg Located.span hk
    cases Name.token_injective hn
    exact ⟨rfl, congrArg Located.span hl, hr⟩

theorem instances_inj : ∀ {instances instances' : List InstanceTree} {right right' : Span}
    {r r' : List (Located Token)},
      instances.flatMap InstanceTree.tokens ++ ⟨.rbrace, right⟩ :: r =
        instances'.flatMap InstanceTree.tokens ++ ⟨.rbrace, right'⟩ :: r' →
      instances = instances' ∧ right = right' ∧ r = r'
  | [], [], right, right', r, r', h => by simpa using h
  | [], i' :: is', right, right', r, r', h => by cases (Located.mk.inj (List.cons.inj h).1).1
  | i :: is, [], right, right', r, r', h => by cases (Located.mk.inj (List.cons.inj h).1).1
  | ⟨c, comma⟩ :: is, ⟨c', comma'⟩ :: is', right, right', r, r', h => by
    simp only [List.flatMap_cons, InstanceTree.tokens, List.append_assoc] at h
    obtain ⟨rfl, hrest⟩ := c.prefixFree _ _ _ h
    obtain ⟨t, ts, ht, hne⟩ := exists_cons_instances is right r
    obtain ⟨t', ts', ht', hne'⟩ := exists_cons_instances is' right' r'
    rw [ht, ht'] at hrest
    obtain ⟨rfl, rfl, rfl⟩ := optionalComma_inj hne hne' hrest
    obtain ⟨rfl, rfl, rfl⟩ := instances_inj (ht.trans ht'.symm)
    exact ⟨rfl, rfl, rfl⟩

theorem RequirementKind.keyword_injective :
    ∀ {k k' : RequirementKind}, k.keyword = k'.keyword → k = k'
  | .components, .components, _ => rfl
  | .entities, .entities, _ => rfl
  | .components, .entities, h => by simp [keyword] at h
  | .entities, .components, h => by simp [keyword] at h

theorem names_prefixFree (e : Enclosed Name) :
    PrefixFree (Enclosed.tokens (fun n => [Name.token n]) .lbracket .rbracket) e := by
  have hs : StartsApart (fun n => [Name.token n]) .rbracket := fun n => ⟨_, _, rfl, nofun, nofun⟩
  refine Enclosed.prefixFree (by decide) hs e fun n _ => ?_
  intro n' r r' h
  obtain ⟨hn, hr⟩ := List.cons.inj h
  exact ⟨Name.token_injective hn, hr⟩

theorem requirementTokens_inj {q q' : Option RequirementTree} {right right' : Span}
    {r r' : List (Located Token)} (h : requirementTokens q ++ ⟨.rbrace, right⟩ :: r =
      requirementTokens q' ++ ⟨.rbrace, right'⟩ :: r') : q = q' ∧ right = right' ∧ r = r' := by
  rcases q with _ | ⟨⟨kind, span⟩, colon, names, comma⟩ <;>
    rcases q' with _ | ⟨⟨kind', span'⟩, colon', names', comma'⟩
  · simpa [requirementTokens] using h
  · simp [requirementTokens, RequirementTree.tokens] at h
  · simp [requirementTokens, RequirementTree.tokens] at h
  · simp only [requirementTokens, Option.map_some, Option.getD_some, RequirementTree.tokens,
      List.cons_append, List.append_assoc, List.cons.injEq, Located.mk.injEq, Token.word.injEq] at h
    obtain ⟨⟨hk, rfl⟩, ⟨-, rfl⟩, hn⟩ := h
    obtain ⟨rfl, hrest⟩ := names_prefixFree names _ _ _ hn
    have hb : Token.rbrace ≠ .comma := nofun
    obtain ⟨rfl, hright, rfl⟩ := optionalComma_inj hb hb hrest
    cases RequirementKind.keyword_injective hk
    exact ⟨rfl, congrArg Located.span hright, rfl⟩

namespace DeclarationTree

/-- **A declaration is told apart** from any other: first by its keyword. -/
theorem prefixFree (d : DeclarationTree) : PrefixFree tokens d := by
  cases d with
  | project keyword name =>
    rintro (⟨keyword', name'⟩ | _ | _ | _) r r' h <;>
      simp only [tokens, List.cons_append, List.append_assoc, List.cons.injEq, Located.mk.injEq,
        Token.word.injEq, String.reduceEq, false_and, true_and, List.nil_append] at h
    obtain ⟨rfl, hn, rfl⟩ := h
    cases NameTree.token_injective hn
    exact ⟨rfl, rfl⟩
  | component keyword c =>
    rintro (_ | ⟨keyword', c'⟩ | _ | _) r r' h <;>
      simp only [tokens, List.cons_append, List.append_assoc, List.cons.injEq, Located.mk.injEq,
        Token.word.injEq, String.reduceEq, false_and, true_and, List.nil_append] at h
    obtain ⟨rfl, hc⟩ := h
    obtain ⟨rfl, rfl⟩ := c.prefixFree _ _ _ hc
    exact ⟨rfl, rfl⟩
  | template keyword name parent left instances right =>
    rintro (_ | _ | ⟨keyword', name', parent', left', instances', right'⟩ | _) r r' h <;>
      simp only [tokens, List.cons_append, List.append_assoc, List.cons.injEq, Located.mk.injEq,
        Token.word.injEq, String.reduceEq, false_and, true_and, List.nil_append] at h
    obtain ⟨rfl, hn, hp⟩ := h
    cases Name.token_injective hn
    obtain ⟨rfl, rfl, hi⟩ := parentTokens_inj hp
    obtain ⟨rfl, rfl, rfl⟩ := instances_inj hi
    exact ⟨rfl, rfl⟩
  | system keyword name parent left requirement right =>
    rintro (_ | _ | _ | ⟨keyword', name', parent', left', requirement', right'⟩) r r' h <;>
      simp only [tokens, List.cons_append, List.append_assoc, List.cons.injEq, Located.mk.injEq,
        Token.word.injEq, String.reduceEq, false_and, true_and, List.nil_append] at h
    obtain ⟨rfl, hn, hp⟩ := h
    cases Name.token_injective hn
    obtain ⟨rfl, rfl, hq⟩ := parentTokens_inj hp
    obtain ⟨rfl, rfl, rfl⟩ := requirementTokens_inj hq
    exact ⟨rfl, rfl⟩

end DeclarationTree

/-- **A list of tokens derives from one description only.** -/
theorem DescriptionTree.tokens_injective : ∀ {d d' : DescriptionTree}, d.tokens = d'.tokens → d = d'
  | [], [], _ => rfl
  | [], a :: d, h => absurd (List.append_eq_nil_iff.1 h.symm).1 a.tokens_ne_nil
  | a :: d, [], h => absurd (List.append_eq_nil_iff.1 h).1 a.tokens_ne_nil
  | a :: d, a' :: d', h => by
    obtain ⟨rfl, hrest⟩ := a.prefixFree _ _ _ h
    rw [tokens_injective hrest]

end EntityForge
