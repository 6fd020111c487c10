import EntityForge.Proofs.Grammar.Literals

/-! # The reader of declarations follows the grammar

The reader of declarations accepts exactly the tokens of descriptions, and what it builds are the
declarations that the trees mean. Every rule of the grammar has a lemma in each direction:
`advance_…` for tokens that are derived and read, `exists_…` for tokens that are read and derived.

* `advance_reading`, `exists_reading`: properties are read by the reader of literals.
* `HeadStates`: what a template and a system have in common, up to the brace.
* `DeclarationTree.advance_tokens`: the tokens of a declaration are read.
* `run_declarationReader_eq_ok_iff`: the reader accepts exactly the descriptions. -/

namespace EntityForge

open DeclarationState

variable {s : DeclarationState} {ds : List Declaration} {ts : List (Located Token)}

/-! ### Properties -/

/-- The state of the reader while a literal is read for a component or an instance. -/
def DeclarationState.during (s : DeclarationState) (owner : Owner) (name : Name) :
    LiteralState → DeclarationState
  | .done v => s.close ⟨name, v.fields⟩ owner
  | r => s.enter (.properties owner name r)

theorem step_properties (owner : Owner) (name : Name) (r : LiteralState) (t : Located Token) :
    declarationReader.step (s.enter (.properties owner name r)) t =
      (literalReader.step r t).map (s.during owner name) := by
  have hstep : declarationReader.step (s.enter (.properties owner name r)) t =
      (s.enter (.properties owner name r)).stepProperties owner name r t.val := rfl
  rw [hstep]
  unfold stepProperties
  show _ = (r.step t.val).map (s.during owner name)
  split
  · next h => rw [h]; rfl
  · next v h => rw [h]; cases owner <;> rfl
  · next r' hne h =>
    rw [h]
    cases r' with
    | done v => exact absurd rfl (hne v)
    | _ => rfl

theorem during_eq_enter {owner : Owner} {name : Name} {r r' : LiteralState} {t : Located Token}
    (h : literalReader.step r t = some r') :
    s.during owner name r = s.enter (.properties owner name r) := by
  cases r with
  | done v => cases h
  | _ => rfl

theorem advance_reading (owner : Owner) (name : Name) {r' : LiteralState} :
    ∀ {ts : List (Located Token)} {r : LiteralState}, literalReader.advance r ts = some r' →
      declarationReader.advance (s.during owner name r) ts = some (s.during owner name r')
  | [], r, h => by cases h; rfl
  | t :: ts, r, h => by
    obtain ⟨r₁, hr, h⟩ := Option.bind_eq_some_iff.1 h
    have hs : declarationReader.step (s.during owner name r) t = some (s.during owner name r₁) := by
      rw [during_eq_enter hr, step_properties, hr, Option.map_some]
    rw [Machine.advance_cons_of hs, advance_reading owner name h]

theorem exists_reading {owner : Owner} {name : Name} : ∀ {ts : List (Located Token)}
    {r : LiteralState}, declarationReader.runFrom (s.enter (.properties owner name r)) ts = .ok ds →
      ∃ as v rest, ts = as ++ rest ∧ literalReader.runFrom r as = .ok v ∧
        declarationReader.runFrom (s.close ⟨name, v.fields⟩ owner) rest = .ok ds
  | [], r, h => by cases h
  | t :: ts, r, h => by
    obtain ⟨s', hs, h⟩ := Machine.runFrom_cons_eq_ok_iff.1 h
    rw [step_properties] at hs
    obtain ⟨r', hr, rfl⟩ := Option.map_eq_some_iff.1 hs
    by_cases hd : ∃ v, r' = .done v
    · obtain ⟨v, rfl⟩ := hd
      exact ⟨[t], v, ts, rfl, Machine.runFrom_cons_eq_ok_iff.2 ⟨_, hr, rfl⟩, h⟩
    · have he : s.during owner name r' = s.enter (.properties owner name r') := by
        cases r' with
        | done v => exact absurd ⟨v, rfl⟩ hd
        | _ => rfl
      rw [he] at h
      obtain ⟨as, v, rest, rfl, hv, hrest⟩ := exists_reading h
      exact ⟨t :: as, v, rest, rfl, Machine.runFrom_cons_eq_ok_iff.2 ⟨r', hr, hv⟩, hrest⟩

/-- **Properties are read** for a component or an instance. -/
theorem PropertiesTree.advance_tokens (e : PropertiesTree) (owner : Owner) (name : Name) :
    declarationReader.advance (s.enter (.propertiesOpen owner name)) e.tokens =
      some (s.close ⟨name, e.properties⟩ owner) := by
  have hopen : declarationReader.step (s.enter (.propertiesOpen owner name)) ⟨.lbrace, e.opening⟩ =
      some (s.during owner name (.key [] [])) := rfl
  rw [PropertiesTree.tokens, Enclosed.tokens, Machine.advance_cons_of hopen,
    advance_reading owner name
      (advance_pairs e.entries e.closing (fun p _ => p.value.advance_tokens) [])]
  rfl

theorem exists_properties {owner : Owner} {name : Name}
    (h : declarationReader.runFrom (s.enter (.propertiesOpen owner name)) ts = .ok ds) :
    ∃ e rest, ts = PropertiesTree.tokens e ++ rest ∧
      declarationReader.runFrom (s.close ⟨name, e.properties⟩ owner) rest = .ok ds := by
  rcases ts with _ | ⟨⟨t, span⟩, ts⟩
  · cases h
  obtain ⟨s', hs, h⟩ := Machine.runFrom_cons_eq_ok_iff.1 h
  cases t with
  | lbrace =>
    cases hs
    obtain ⟨as, v, rest, rfl, hv, hrest⟩ := exists_reading h
    obtain ⟨entries, closing, rfl, rfl⟩ := exists_pairs hv
    exact ⟨⟨span, entries, closing⟩, rest, rfl, hrest⟩
  | _ => cases hs

/-! ### Heads -/

/-- **The stages of a head** `Word ['extends' Word] '{'`, which templates and systems share: before
the name, after it, before the name of the parent, before the brace, and behind the brace. -/
structure HeadStates where
  start : Stage
  head : Name → Stage
  parent : Name → Stage
  opening : Name → Name → Stage
  body : Name → Option Name → Stage
  step_start : ∀ (s : DeclarationState) t s', declarationReader.step (s.enter start) t = some s' ↔
    ∃ n : Name, t = n.token ∧ s' = s.enter (head n)
  step_head : ∀ (s : DeclarationState) n t s',
    declarationReader.step (s.enter (head n)) t = some s' ↔
      (∃ left, t = ⟨.lbrace, left⟩ ∧ s' = s.enter (body n none)) ∨
        ∃ k, t = ⟨.word "extends", k⟩ ∧ s' = s.enter (parent n)
  step_parent : ∀ (s : DeclarationState) n t s',
    declarationReader.step (s.enter (parent n)) t = some s' ↔
      ∃ p : Name, t = p.token ∧ s' = s.enter (opening n p)
  step_opening : ∀ (s : DeclarationState) n p t s',
    declarationReader.step (s.enter (opening n p)) t = some s' ↔
      ∃ left, t = ⟨.lbrace, left⟩ ∧ s' = s.enter (body n (some p))
  unfinished : ∀ (s : DeclarationState) n p, declarationReader.result (s.enter start) = none ∧
    declarationReader.result (s.enter (head n)) = none ∧
    declarationReader.result (s.enter (parent n)) = none ∧
    declarationReader.result (s.enter (opening n p)) = none

namespace HeadStates

variable (H : HeadStates)

theorem advance_head (name : Name) (parent : Option ParentTree) (left : Span) :
    declarationReader.advance (s.enter H.start)
        (name.token :: (parentTokens parent ++ [⟨.lbrace, left⟩])) =
      some (s.enter (H.body name (parent.map ParentTree.name))) := by
  rw [Machine.advance_cons_of ((H.step_start _ _ _).2 ⟨name, rfl, rfl⟩)]
  rcases parent with _ | ⟨k, p⟩
  · exact Machine.advance_cons_of ((H.step_head _ _ _ _).2 (Or.inl ⟨left, rfl, rfl⟩)) []
  · rw [parentTokens, List.cons_append, List.cons_append, List.nil_append,
      Machine.advance_cons_of ((H.step_head _ _ _ _).2 (Or.inr ⟨k, rfl, rfl⟩)),
      Machine.advance_cons_of ((H.step_parent _ _ _ _).2 ⟨p, rfl, rfl⟩),
      Machine.advance_cons_of ((H.step_opening _ _ _ _ _).2 ⟨left, rfl, rfl⟩)]
    rfl

theorem exists_head (h : declarationReader.runFrom (s.enter H.start) ts = .ok ds) :
    ∃ name parent left rest,
      ts = Name.token name :: (parentTokens parent ++ ⟨.lbrace, left⟩ :: rest) ∧
      declarationReader.runFrom (s.enter (H.body name (parent.map ParentTree.name))) rest =
        .ok ds := by
  rcases ts with _ | ⟨t, ts⟩
  · rw [Machine.runFrom_nil_eq_ok_iff, (H.unfinished s default default).1] at h
    cases h
  obtain ⟨s₁, h₁, h⟩ := Machine.runFrom_cons_eq_ok_iff.1 h
  obtain ⟨name, rfl, rfl⟩ := (H.step_start _ _ _).1 h₁
  rcases ts with _ | ⟨t, ts⟩
  · rw [Machine.runFrom_nil_eq_ok_iff, (H.unfinished s name default).2.1] at h
    cases h
  obtain ⟨s₂, h₂, h⟩ := Machine.runFrom_cons_eq_ok_iff.1 h
  rcases (H.step_head _ _ _ _).1 h₂ with ⟨left, rfl, rfl⟩ | ⟨k, rfl, rfl⟩
  · exact ⟨name, none, left, ts, rfl, h⟩
  rcases ts with _ | ⟨t, ts⟩
  · rw [Machine.runFrom_nil_eq_ok_iff, (H.unfinished s name default).2.2.1] at h
    cases h
  obtain ⟨s₃, h₃, h⟩ := Machine.runFrom_cons_eq_ok_iff.1 h
  obtain ⟨p, rfl, rfl⟩ := (H.step_parent _ _ _ _).1 h₃
  rcases ts with _ | ⟨t, ts⟩
  · rw [Machine.runFrom_nil_eq_ok_iff, (H.unfinished s name p).2.2.2] at h
    cases h
  obtain ⟨s₄, h₄, h⟩ := Machine.runFrom_cons_eq_ok_iff.1 h
  obtain ⟨left, rfl, rfl⟩ := (H.step_opening _ _ _ _ _).1 h₄
  exact ⟨name, some ⟨k, p⟩, left, ts, rfl, h⟩

end HeadStates

theorem exists_name_iff {t : Token} {span : Span} {s' : DeclarationState}
    {f : Name → DeclarationState} :
    (∃ n : Name, (⟨t, span⟩ : Located Token) = n.token ∧ s' = f n) ↔
      ∃ w, t = .word w ∧ s' = f ⟨w, span⟩ := by
  constructor
  · rintro ⟨⟨w, _⟩, h, rfl⟩
    obtain ⟨rfl, rfl⟩ := Located.mk.inj h
    exact ⟨w, rfl, rfl⟩
  · rintro ⟨w, rfl, rfl⟩
    exact ⟨⟨w, span⟩, rfl, rfl⟩

/-- The head of a template. -/
def templateHead : HeadStates where
  start := .templateName
  head := .templateHead
  parent := .templateParent
  opening := .templateOpen
  body name parent := .instanceName ⟨name, parent, []⟩
  step_start := by
    rintro s ⟨t, span⟩ s'
    rw [exists_name_iff]
    cases t <;> simp [declarationReader, DeclarationState.step, enter, eq_comm]
  step_head := by
    rintro s n ⟨t, span⟩ s'
    cases t <;> simp [declarationReader, DeclarationState.step, enter, eq_comm]
  step_parent := by
    rintro s n ⟨t, span⟩ s'
    rw [exists_name_iff]
    cases t <;> simp [declarationReader, DeclarationState.step, enter, eq_comm]
  step_opening := by
    rintro s n p ⟨t, span⟩ s'
    cases t <;> simp [declarationReader, DeclarationState.step, enter, eq_comm]
  unfinished _ _ _ := ⟨rfl, rfl, rfl, rfl⟩

/-- The head of a system. -/
def systemHead : HeadStates where
  start := .systemName
  head := .systemHead
  parent := .systemParent
  opening := .systemOpen
  body name parent := .requirement ⟨name, parent⟩
  step_start := by
    rintro s ⟨t, span⟩ s'
    rw [exists_name_iff]
    cases t <;> simp [declarationReader, DeclarationState.step, enter, eq_comm]
  step_head := by
    rintro s n ⟨t, span⟩ s'
    cases t <;> simp [declarationReader, DeclarationState.step, enter, eq_comm]
  step_parent := by
    rintro s n ⟨t, span⟩ s'
    rw [exists_name_iff]
    cases t <;> simp [declarationReader, DeclarationState.step, enter, eq_comm]
  step_opening := by
    rintro s n p ⟨t, span⟩ s'
    cases t <;> simp [declarationReader, DeclarationState.step, enter, eq_comm]
  unfinished _ _ _ := ⟨rfl, rfl, rfl, rfl⟩

/-! ### Instances -/

/-- After an instance any token but a comma is read as if a comma had been there. -/
theorem step_instanceEnd {o : OpenTemplate} {t : Located Token} (h : t.val ≠ .comma) :
    declarationReader.step (s.enter (.instanceEnd o)) t =
      declarationReader.step (s.enter (.instanceName o)) t := by
  obtain ⟨t, span⟩ := t
  cases t with
  | comma => exact absurd rfl h
  | _ => rfl

/-- The template with one more instance. -/
def OpenTemplate.add (o : OpenTemplate) (c : Component) : OpenTemplate :=
  ⟨o.name, o.parent, c :: o.instances⟩

/-- The declaration of a template with further instances. -/
def OpenTemplate.declare (o : OpenTemplate) (instances : List InstanceTree) : Declaration :=
  .template ⟨o.name, o.parent,
    o.instances.reverse ++ instances.map fun i => i.component.component⟩

theorem OpenTemplate.declare_nil (o : OpenTemplate) :
    o.declare [] = .template ⟨o.name, o.parent, o.instances.reverse⟩ := by
  simp [declare]

theorem OpenTemplate.declare_add (o : OpenTemplate) (i : InstanceTree) (is : List InstanceTree) :
    (o.add i.component.component).declare is = o.declare (i :: is) := by
  simp [declare, add]

/-- **Instances are read** up to the closing bracket of their template. -/
theorem advance_instances : ∀ (instances : List InstanceTree) (o : OpenTemplate) (right : Span),
    declarationReader.advance (s.enter (.instanceName o))
        (instances.flatMap InstanceTree.tokens ++ [⟨.rbrace, right⟩]) =
      some (s.finish (o.declare instances))
  | [], o, right => by rw [OpenTemplate.declare_nil]; rfl
  | i :: is, o, right => by
    have hname : declarationReader.step (s.enter (.instanceName o)) i.component.name.token =
        some (s.enter (.propertiesOpen (.template o) i.component.name)) := rfl
    have hproperties :=
      i.component.properties.advance_tokens (s := s) (.template o) i.component.name
    simp only [List.flatMap_cons, InstanceTree.tokens, ComponentTree.tokens, List.cons_append,
      List.append_assoc]
    rw [Machine.advance_cons_of hname, Machine.advance_append_of hproperties]
    show declarationReader.advance (s.enter (.instanceEnd (o.add i.component.component))) _ = _
    rcases i.trailing with _ | c
    · obtain ⟨t, ts, ht, hne⟩ := exists_cons_instances is right []
      have ih := advance_instances is (o.add i.component.component) right
      rw [ht, Machine.advance_cons] at ih
      rw [optionalComma_none, List.nil_append, ht, Machine.advance_cons, step_instanceEnd hne, ih,
        OpenTemplate.declare_add]
    · have hcomma : declarationReader.step (s.enter (.instanceEnd (o.add i.component.component)))
          ⟨.comma, c⟩ = some (s.enter (.instanceName (o.add i.component.component))) := rfl
      rw [optionalComma_some, List.singleton_append, Machine.advance_cons_of hcomma,
        advance_instances is _ right, OpenTemplate.declare_add]

/-- What is accepted after an instance is the rest of an instance's tokens, perhaps a comma, and
then what is accepted before an instance. -/
theorem exists_instanceEnd {o : OpenTemplate}
    (h : declarationReader.runFrom (s.enter (.instanceEnd o)) ts = .ok ds) :
    ∃ comma rest, ts = optionalComma comma ++ rest ∧
      declarationReader.runFrom (s.enter (.instanceName o)) rest = .ok ds := by
  rcases ts with _ | ⟨t, ts⟩
  · cases h
  by_cases ht : t.val = .comma
  · obtain ⟨_, span⟩ := t
    subst ht
    obtain ⟨s', hs, h⟩ := Machine.runFrom_cons_eq_ok_iff.1 h
    cases hs
    exact ⟨some span, ts, rfl, h⟩
  · rw [Machine.runFrom_cons_eq_ok_iff, step_instanceEnd ht, ← Machine.runFrom_cons_eq_ok_iff] at h
    exact ⟨none, t :: ts, rfl, h⟩

theorem exists_instances : ∀ (n : ℕ) (ts : List (Located Token)) (o : OpenTemplate), ts.length ≤ n →
    declarationReader.runFrom (s.enter (.instanceName o)) ts = .ok ds →
      ∃ instances right rest,
        ts = instances.flatMap InstanceTree.tokens ++ ⟨.rbrace, right⟩ :: rest ∧
        declarationReader.runFrom (s.finish (o.declare instances)) rest = .ok ds := by
  intro n
  induction n with
  | zero =>
    intro ts o hn h
    rw [List.length_eq_zero_iff.1 (Nat.le_zero.1 hn)] at h
    cases h
  | succ n ih =>
    intro ts o hn h
    rcases ts with _ | ⟨⟨t, span⟩, ts⟩
    · cases h
    have hlen : ts.length ≤ n := by simpa using hn
    obtain ⟨s', hs, h⟩ := Machine.runFrom_cons_eq_ok_iff.1 h
    cases t with
    | word w =>
      cases hs
      obtain ⟨e, rest₁, rfl, h₁⟩ := exists_properties (s := s) h
      obtain ⟨comma, rest₂, rfl, h₂⟩ := exists_instanceEnd (s := s) h₁
      rw [List.length_append, List.length_append] at hlen
      obtain ⟨instances, right, rest, rfl, h₃⟩ := ih rest₂ _ (by omega) h₂
      refine ⟨⟨⟨⟨w, span⟩, e⟩, comma⟩ :: instances, right, rest, ?_, ?_⟩
      · simp [InstanceTree.tokens, ComponentTree.tokens, Name.token]
      · rw [← OpenTemplate.declare_add]
        exact h₃
    | rbrace =>
      cases hs
      refine ⟨[], span, ts, rfl, ?_⟩
      rw [OpenTemplate.declare_nil]
      exact h
    | _ => cases hs

/-! ### Requirements -/

/-- The states inside the names of a requirement. -/
def nameStates (s : DeclarationState) (o : OpenSystem) (kind : RequirementKind) :
    ListStates declarationReader Name .rbracket where
  before ns := s.enter (.requiredName o kind ns)
  after ns := s.enter (.requiredEnd o kind ns)
  closed ns := s.enter (.requirementEnd ⟨o.name, o.parent, ⟨kind, ns.reverse⟩⟩)
  step_comma _ _ := rfl
  step_right _ _ := rfl
  step_right_before _ _ := rfl
  cases_after := by
    rintro ns ⟨t, span⟩ s h
    cases t with
    | comma => exact Or.inl rfl
    | rbracket => exact Or.inr rfl
    | _ => cases h
  result_after _ := rfl

theorem nameStates_closed (o : OpenSystem) (kind : RequirementKind) (ns : List Name) :
    (nameStates s o kind).closed ns =
      s.enter (.requirementEnd ⟨o.name, o.parent, ⟨kind, ns.reverse⟩⟩) := rfl

theorem RequirementKind.ofKeyword?_eq_some_iff {w : String} {kind : RequirementKind} :
    RequirementKind.ofKeyword? w = some kind ↔ w = kind.keyword := by
  unfold RequirementKind.ofKeyword?
  cases kind
  · by_cases h : w = "components" <;> simp [h, keyword]
  · by_cases h : w = "components"
    · simp [h, keyword]
    · by_cases h' : w = "entities" <;> simp [h', h, keyword]

theorem advance_names (e : Enclosed Name) (o : OpenSystem) (kind : RequirementKind) :
    declarationReader.advance (s.enter (.requirementOpen o kind))
        (e.tokens (fun n => [n.token]) .lbracket .rbracket) =
      some (s.enter (.requirementEnd ⟨o.name, o.parent, ⟨kind, e.items⟩⟩)) := by
  have hopen : declarationReader.step (s.enter (.requirementOpen o kind)) ⟨.lbracket, e.opening⟩ =
      some ((nameStates s o kind).before []) := rfl
  rw [Enclosed.tokens, Machine.advance_cons_of hopen,
    (nameStates s o kind).advance_inside (fun n => [n.token]) id e.entries e.closing
      fun n _ ns => rfl,
    nameStates_closed, List.reverse_reverse, List.map_id]
  rfl

theorem exists_names {o : OpenSystem} {kind : RequirementKind}
    (h : declarationReader.runFrom (s.enter (.requirementOpen o kind)) ts = .ok ds) :
    ∃ e rest, ts = Enclosed.tokens (fun n => [Name.token n]) .lbracket .rbracket e ++ rest ∧
      declarationReader.runFrom
        (s.enter (.requirementEnd ⟨o.name, o.parent, ⟨kind, e.items⟩⟩)) rest = .ok ds := by
  rcases ts with _ | ⟨⟨t, opening⟩, ts⟩
  · cases h
  obtain ⟨s', hs, hin⟩ := Machine.runFrom_cons_eq_ok_iff.1 h
  cases t with
  | lbracket =>
    cases hs
    have hentry : ∀ ns us, us.length ≤ ts.length →
        declarationReader.runFrom ((nameStates s o kind).before ns) us = .ok ds →
          (∃ span rest, us = ⟨.rbracket, span⟩ :: rest) ∨ ∃ n rest, us = [Name.token n] ++ rest ∧
            declarationReader.runFrom ((nameStates s o kind).after (id n :: ns)) rest = .ok ds := by
      rintro ns us - hx
      rcases us with _ | ⟨⟨t, span⟩, us⟩
      · cases hx
      obtain ⟨s', hs, hx⟩ := Machine.runFrom_cons_eq_ok_iff.1 hx
      cases t with
      | rbracket => exact Or.inl ⟨span, us, rfl⟩
      | word w => cases hs; exact Or.inr ⟨⟨w, span⟩, us, rfl, hx⟩
      | _ => cases hs
    obtain ⟨entries, closing, rest, rfl, hrest⟩ := (nameStates s o kind).exists_inside ts hentry hin
    rw [nameStates_closed, List.reverse_reverse, List.map_id] at hrest
    exact ⟨⟨opening, entries, closing⟩, rest, by simp [Enclosed.tokens], hrest⟩
  | _ => cases hs

theorem exists_requirementEnd {q : System}
    (h : declarationReader.runFrom (s.enter (.requirementEnd q)) ts = .ok ds) :
    ∃ comma right rest, ts = optionalComma comma ++ ⟨.rbrace, right⟩ :: rest ∧
      declarationReader.runFrom (s.finish (.system q)) rest = .ok ds := by
  rcases ts with _ | ⟨⟨t, span⟩, ts⟩
  · cases h
  obtain ⟨s', hs, hrest⟩ := Machine.runFrom_cons_eq_ok_iff.1 h
  cases t with
  | rbrace => cases hs; exact ⟨none, span, ts, rfl, hrest⟩
  | comma =>
    cases hs
    rcases ts with _ | ⟨⟨t, right⟩, ts⟩
    · cases hrest
    obtain ⟨s'', hs', hend⟩ := Machine.runFrom_cons_eq_ok_iff.1 hrest
    cases t with
    | rbrace => cases hs'; exact ⟨some span, right, ts, rfl, hend⟩
    | _ => cases hs'
  | _ => cases hs

/-- **The body of a system is read** up to its closing bracket. -/
theorem advance_requirement (q : Option RequirementTree) (o : OpenSystem) (right : Span) :
    declarationReader.advance (s.enter (.requirement o))
        (requirementTokens q ++ [⟨.rbrace, right⟩]) =
      some (s.finish (.system ⟨o.name, o.parent, requirementMeant q⟩)) := by
  rcases q with _ | ⟨⟨kind, span⟩, colon, names, trailing⟩
  · rfl
  have hkeyword : declarationReader.step (s.enter (.requirement o)) ⟨.word kind.keyword, span⟩ =
      some (s.enter (.requirementColon o kind)) := by
    show (RequirementKind.ofKeyword? kind.keyword).map _ = _
    rw [RequirementKind.ofKeyword?_eq_some_iff.2 rfl]
    rfl
  have hcolon : declarationReader.step (s.enter (.requirementColon o kind)) ⟨.colon, colon⟩ =
      some (s.enter (.requirementOpen o kind)) := rfl
  simp only [requirementTokens, Option.map_some, Option.getD_some, RequirementTree.tokens,
    List.cons_append, List.append_assoc]
  rw [Machine.advance_cons_of hkeyword, Machine.advance_cons_of hcolon,
    Machine.advance_append_of (advance_names names o kind)]
  rcases trailing with _ | c
  · rfl
  · rfl

theorem exists_requirement {o : OpenSystem}
    (h : declarationReader.runFrom (s.enter (.requirement o)) ts = .ok ds) :
    ∃ q right rest, ts = requirementTokens q ++ ⟨.rbrace, right⟩ :: rest ∧
      declarationReader.runFrom (s.finish (.system ⟨o.name, o.parent, requirementMeant q⟩)) rest =
        .ok ds := by
  rcases ts with _ | ⟨⟨t, span⟩, ts⟩
  · cases h
  obtain ⟨s₁, hs₁, h₁⟩ := Machine.runFrom_cons_eq_ok_iff.1 h
  cases t with
  | rbrace => cases hs₁; exact ⟨none, span, ts, rfl, h₁⟩
  | word w =>
    obtain ⟨kind, hk, rfl⟩ := Option.map_eq_some_iff.1 hs₁
    obtain rfl := RequirementKind.ofKeyword?_eq_some_iff.1 hk
    rcases ts with _ | ⟨⟨t, colon⟩, ts⟩
    · cases h₁
    obtain ⟨s₂, hs₂, h₂⟩ := Machine.runFrom_cons_eq_ok_iff.1 h₁
    cases t with
    | colon =>
      cases hs₂
      obtain ⟨names, rest, rfl, h₃⟩ := exists_names (s := s) h₂
      obtain ⟨comma, right, rest, rfl, h₄⟩ := exists_requirementEnd h₃
      refine ⟨some ⟨⟨kind, span⟩, colon, names, comma⟩, right, rest, ?_, h₄⟩
      simp [requirementTokens, RequirementTree.tokens]
    | _ => cases hs₂
  | _ => cases hs₁

/-! ### Declarations -/

/-- **The tokens of a declaration are read** as the declaration it means. -/
theorem DeclarationTree.advance_tokens (d : DeclarationTree) :
    declarationReader.advance (s.enter .top) d.tokens = some (s.finish d.declaration) := by
  cases d with
  | project keyword name =>
    rcases name with n | n
    · rfl
    · rfl
  | component keyword c =>
    exact c.properties.advance_tokens .component c.name
  | template keyword name parent left instances right =>
    have hbody := advance_instances (s := s) instances ⟨name, parent.map ParentTree.name, []⟩ right
    have hkeyword : declarationReader.step (s.enter .top) ⟨.word "template", keyword⟩ =
        some (s.enter templateHead.start) := rfl
    have hsplit : (DeclarationTree.template keyword name parent left instances right).tokens =
        ⟨.word "template", keyword⟩ :: ((name.token :: (parentTokens parent ++ [⟨.lbrace, left⟩]))
          ++ (instances.flatMap InstanceTree.tokens ++ [⟨.rbrace, right⟩])) := by
      simp [tokens]
    rw [hsplit, Machine.advance_cons_of hkeyword,
      Machine.advance_append_of (templateHead.advance_head name parent left)]
    exact hbody
  | system keyword name parent left requirement right =>
    have hbody := advance_requirement (s := s) requirement ⟨name, parent.map ParentTree.name⟩ right
    have hkeyword : declarationReader.step (s.enter .top) ⟨.word "system", keyword⟩ =
        some (s.enter systemHead.start) := rfl
    have hsplit : (DeclarationTree.system keyword name parent left requirement right).tokens =
        ⟨.word "system", keyword⟩ :: ((name.token :: (parentTokens parent ++ [⟨.lbrace, left⟩]))
          ++ (requirementTokens requirement ++ [⟨.rbrace, right⟩])) := by
      simp [tokens]
    rw [hsplit, Machine.advance_cons_of hkeyword,
      Machine.advance_append_of (systemHead.advance_head name parent left)]
    exact hbody

theorem Stage.ofKeyword?_eq_some_iff {w : String} {span : Span} {stage : Stage} :
    Stage.ofKeyword? w span = some stage ↔
      (w = "project" ∧ stage = .projectName span) ∨ (w = "component" ∧ stage = .componentName) ∨
      (w = "template" ∧ stage = .templateName) ∨ (w = "system" ∧ stage = .systemName) := by
  unfold Stage.ofKeyword?
  split_ifs with h₁ h₂ h₃ h₄ <;> simp_all [eq_comm]

theorem exists_declaration (h : declarationReader.runFrom (s.enter .top) ts = .ok ds) :
    (ts = [] ∧ ds = s.finished.reverse) ∨ ∃ d rest, ts = DeclarationTree.tokens d ++ rest ∧
      declarationReader.runFrom (s.finish d.declaration) rest = .ok ds := by
  rcases ts with _ | ⟨⟨t, span⟩, ts⟩
  · exact Or.inl ⟨rfl, (Option.some.inj (Machine.runFrom_nil_eq_ok_iff.1 h)).symm⟩
  right
  obtain ⟨s₁, hs₁, h₁⟩ := Machine.runFrom_cons_eq_ok_iff.1 h
  cases t with
  | word w =>
    obtain ⟨stage, hstage, rfl⟩ := Option.map_eq_some_iff.1 hs₁
    rcases Stage.ofKeyword?_eq_some_iff.1 hstage with
      ⟨rfl, rfl⟩ | ⟨rfl, rfl⟩ | ⟨rfl, rfl⟩ | ⟨rfl, rfl⟩
    · rcases ts with _ | ⟨⟨t, name⟩, ts⟩
      · cases h₁
      obtain ⟨s₂, hs₂, h₂⟩ := Machine.runFrom_cons_eq_ok_iff.1 h₁
      cases t with
      | word n => cases hs₂; exact ⟨.project span (.word ⟨n, name⟩), ts, rfl, h₂⟩
      | str n => cases hs₂; exact ⟨.project span (.quoted ⟨n, name⟩), ts, rfl, h₂⟩
      | _ => cases hs₂
    · rcases ts with _ | ⟨⟨t, name⟩, ts⟩
      · cases h₁
      obtain ⟨s₂, hs₂, h₂⟩ := Machine.runFrom_cons_eq_ok_iff.1 h₁
      cases t with
      | word n =>
        cases hs₂
        obtain ⟨e, rest, rfl, h₃⟩ := exists_properties (s := s) h₂
        exact ⟨.component span ⟨⟨n, name⟩, e⟩, rest, rfl, h₃⟩
      | _ => cases hs₂
    · obtain ⟨name, parent, left, rest, rfl, h₂⟩ := templateHead.exists_head (s := s) h₁
      obtain ⟨instances, right, rest, rfl, h₃⟩ := exists_instances _ _ _ (Nat.le_refl _) h₂
      refine ⟨.template span name parent left instances right, rest, ?_, h₃⟩
      simp [DeclarationTree.tokens]
    · obtain ⟨name, parent, left, rest, rfl, h₂⟩ := systemHead.exists_head (s := s) h₁
      obtain ⟨q, right, rest, rfl, h₃⟩ := exists_requirement h₂
      refine ⟨.system span name parent left q right, rest, ?_, h₃⟩
      simp [DeclarationTree.tokens]
  | _ => cases hs₁

theorem DescriptionTree.advance_tokens : ∀ (d : DescriptionTree) (s : DeclarationState),
    declarationReader.advance (s.enter .top) d.tokens =
      some ⟨(d.map DeclarationTree.declaration).reverse ++ s.finished, .top⟩
  | [], s => rfl
  | a :: d, s => by
    have htokens : DescriptionTree.tokens (a :: d) = a.tokens ++ DescriptionTree.tokens d := rfl
    rw [htokens, Machine.advance_append_of a.advance_tokens]
    refine (advance_tokens d (s.finish a.declaration)).trans ?_
    simp [finish]

theorem exists_description : ∀ (n : ℕ) (ts : List (Located Token)) (s : DeclarationState),
    ts.length ≤ n → declarationReader.runFrom (s.enter .top) ts = .ok ds →
      ∃ d : DescriptionTree, d.tokens = ts ∧
        s.finished.reverse ++ d.map DeclarationTree.declaration = ds := by
  intro n
  induction n with
  | zero =>
    intro ts s hn h
    obtain rfl := List.length_eq_zero_iff.1 (Nat.le_zero.1 hn)
    exact ⟨[], rfl, (List.append_nil _).trans (Option.some.inj (Machine.runFrom_nil_eq_ok_iff.1 h))⟩
  | succ n ih =>
    intro ts s hn h
    rcases exists_declaration h with ⟨rfl, rfl⟩ | ⟨a, rest, rfl, h₁⟩
    · exact ⟨[], rfl, List.append_nil _⟩
    · have hpos := List.length_pos_iff.2 a.tokens_ne_nil
      rw [List.length_append] at hn
      obtain ⟨d, rfl, rfl⟩ := ih rest (s.finish a.declaration) (by omega) h₁
      exact ⟨a :: d, rfl, by simp [finish]⟩

/-- **The reader of declarations accepts exactly the descriptions.** -/
theorem run_declarationReader_eq_ok_iff :
    declarationReader.run ts = .ok ds ↔
      ∃ d : DescriptionTree, d.tokens = ts ∧ d.map DeclarationTree.declaration = ds := by
  constructor
  · intro h
    obtain ⟨d, hd, hds⟩ := exists_description _ ts ⟨[], .top⟩ (Nat.le_refl _) h
    exact ⟨d, hd, by simpa using hds⟩
  · rintro ⟨d, rfl, rfl⟩
    refine Machine.runFrom_eq_ok_iff.2 ⟨_, d.advance_tokens ⟨[], .top⟩, ?_⟩
    simp [declarationReader, result]

end EntityForge
