import EntityForge.Proofs.Grammar.Declarations

/-! # Faults stand where the grammar fails

A list of tokens is viable if something can be put behind it so that the whole derives from the
grammar. The readers never go back, and yet they accept a token exactly if the tokens up to it are
viable: from every state that they reach, the rest of a derivation can be read. So the fault of a
list that does not derive stands at the first token that makes it unviable, or at its end, and what
the fault lists as expected are all tokens that could have stood there.

* `Viable`: some continuation derives from the grammar.
* `Pinpoints`: what it means that a fault is located and described exactly.
* `Predictive`: a machine of that kind for a grammar. `Predictive.pinpoints` is about all of them.
* `literalReader_predictive`, `declarationReader_predictive`: the two readers. -/

namespace EntityForge

/-- **Some continuation derives** from the grammar. -/
def Viable (derives : List (Located Token) → Prop) (ts : List (Located Token)) : Prop :=
  ∃ more, derives (ts ++ more)

/-- **A fault says exactly what is wrong** with a list of tokens: it stands at the first token that
makes the list unviable and shows it, or at the end if the whole list is viable. What it expects are
the tokens that keep the accepted part viable, and the end of the input if that part derives. -/
def Pinpoints (derives : List (Located Token) → Prop) (ts : List (Located Token))
    (f : Located ParseFault) : Prop :=
  ∃ (accepted : List (Located Token)) (labels : List Label),
    ((∃ t rest, ts = accepted ++ t :: rest ∧ Viable derives accepted ∧
        ¬ Viable derives (accepted ++ [t]) ∧ f = ⟨.mismatch (some t.val) labels, t.span⟩ ∧
        f.val.message = "found '" ++ t.val.display ++ "' expected " ++ Label.listText labels) ∨
      (ts = accepted ∧ Viable derives ts ∧
        f = ⟨.mismatch none labels, ⟨endOfTokens ts, endOfTokens ts⟩⟩ ∧
        f.val.message = "found end of input expected " ++ Label.listText labels)) ∧
    (∀ u, (∃ l ∈ labels, l.describes u.val) ↔ Viable derives (accepted ++ [u])) ∧
    (.endOfInput ∈ labels ↔ derives accepted)

/-! ### Predictive machines -/

section Predictive
variable {σ α : Type}

/-- A state from which the machine can still finish. -/
def Machine.Completes (m : Machine σ α) (s : σ) : Prop :=
  ∃ more a, m.runFrom s more = .ok a

theorem Machine.Completes.of_step {m : Machine σ α} {s s' : σ} {t : Located Token}
    (h : m.step s t = some s') : m.Completes s' → m.Completes s := by
  rintro ⟨more, a, ha⟩
  exact ⟨t :: more, a, runFrom_cons_eq_ok_iff.2 ⟨s', h, ha⟩⟩

theorem Machine.Completes.of_advance {m : Machine σ α} {s s' : σ} {ts : List (Located Token)}
    (h : m.advance s ts = some s') : m.Completes s' → m.Completes s := by
  rintro ⟨more, a, ha⟩
  exact ⟨ts ++ more, a, by rw [runFrom_append_of h, ha]⟩

/-- **A machine that predicts** what a grammar allows: it accepts what derives, it can finish from
every state it reaches, and there its labels are those of the tokens with a step, and of the end
where the state is finished. -/
structure Predictive (m : Machine σ α) (derives : List (Located Token) → Prop) : Prop where
  accepts : ∀ ts, derives ts ↔ ∃ a, m.run ts = .ok a
  completes : ∀ ts s, m.advance m.start ts = some s → m.Completes s
  describes : ∀ ts s, m.advance m.start ts = some s → ∀ t : Located Token,
    (m.expected s).any (fun l => l.describes t.val) = (m.step s t).isSome
  finishes : ∀ ts s, m.advance m.start ts = some s →
    (.endOfInput ∈ m.expected s ↔ ∃ a, m.result s = some a)

namespace Predictive

variable {m : Machine σ α} {derives : List (Located Token) → Prop} (P : Predictive m derives)
include P

/-- **Viable lists are those along which the machine has steps.** -/
theorem viable_iff {ts : List (Located Token)} :
    Viable derives ts ↔ ∃ s, m.advance m.start ts = some s := by
  constructor
  · rintro ⟨more, h⟩
    obtain ⟨a, ha⟩ := (P.accepts _).1 h
    obtain ⟨s, hs, -⟩ := Machine.runFrom_eq_ok_iff.1 ha
    rw [Machine.advance_append] at hs
    obtain ⟨s', hs', -⟩ := Option.bind_eq_some_iff.1 hs
    exact ⟨s', hs'⟩
  · rintro ⟨s, hs⟩
    obtain ⟨more, a, ha⟩ := P.completes ts s hs
    exact ⟨more, (P.accepts _).2 ⟨a, (Machine.runFrom_append_of hs more).trans ha⟩⟩

theorem viable_snoc_iff {ts : List (Located Token)} {s : σ} (hs : m.advance m.start ts = some s)
    (t : Located Token) : Viable derives (ts ++ [t]) ↔ ∃ s', m.step s t = some s' := by
  rw [P.viable_iff, Machine.advance_append_of hs, Machine.advance_cons]
  simp

theorem derives_iff {ts : List (Located Token)} {s : σ} (hs : m.advance m.start ts = some s) :
    derives ts ↔ ∃ a, m.result s = some a := by
  rw [P.accepts]
  refine exists_congr fun a => ?_
  rw [Machine.run, Machine.runFrom_eq_ok_iff, hs]
  simp

theorem exists_label_iff {ts : List (Located Token)} {s : σ} (hs : m.advance m.start ts = some s)
    (t : Located Token) :
    (∃ l ∈ m.expected s, l.describes t.val) ↔ Viable derives (ts ++ [t]) := by
  rw [P.viable_snoc_iff hs, ← Option.isSome_iff_exists, ← P.describes ts s hs, List.any_eq_true]

/-- **The fault of a list that does not derive is located and described exactly.** -/
theorem pinpoints {ts : List (Located Token)} (h : ¬ derives ts) :
    ∃ e, m.run ts = .error e ∧ Pinpoints derives ts (e.fault (endOfTokens ts)) := by
  rcases hrun : m.run ts with e | a
  swap
  · exact absurd ((P.accepts ts).2 ⟨a, hrun⟩) h
  refine ⟨e, rfl, ?_⟩
  rcases Machine.exists_of_runFrom_eq_error hrun with
    ⟨accepted, t, rest, s, rfl, hs, ht, rfl⟩ | ⟨s, hs, hr, rfl⟩
  · refine ⟨accepted, m.expected s, Or.inl ⟨t, rest, rfl, P.viable_iff.2 ⟨s, hs⟩, ?_, rfl, rfl⟩,
      P.exists_label_iff hs,
      (P.finishes _ s hs).trans (P.derives_iff hs).symm⟩
    rw [P.viable_snoc_iff hs]
    rintro ⟨s', hs'⟩
    rw [ht] at hs'
    cases hs'
  · exact ⟨ts, m.expected s, Or.inr ⟨rfl, P.viable_iff.2 ⟨s, hs⟩, rfl, rfl⟩,
      P.exists_label_iff hs,
      (P.finishes _ s hs).trans (P.derives_iff hs).symm⟩

end Predictive

end Predictive

/-! ### The reader of literals -/

theorem completes_after : ∀ (outer : List Frame) (v : Literal),
    literalReader.Completes (LiteralState.after v outer)
  | [], v => ⟨[], v, rfl⟩
  | .array es :: outer, v => by
    have hs : literalReader.step (.elementEnd (v :: es) outer) ⟨.rbracket, default⟩ =
        some (LiteralState.after (.array (v :: es).reverse) outer) := rfl
    exact Machine.Completes.of_step hs (completes_after outer _)
  | .object fs name :: outer, v => by
    have hs : literalReader.step (.fieldEnd ((name, v) :: fs) outer) ⟨.rbrace, default⟩ =
        some (LiteralState.after (.object ((name, v) :: fs).reverse) outer) := rfl
    exact Machine.Completes.of_step hs (completes_after outer _)

/-- **From every state a literal can be finished.** -/
theorem LiteralState.completes (s : LiteralState) : literalReader.Completes s := by
  have hvalue : ∀ outer, literalReader.Completes (.value outer) := fun outer =>
    Machine.Completes.of_step (t := ⟨.number "0", default⟩) rfl
      (completes_after outer (.number "0"))
  cases s with
  | value outer => exact hvalue outer
  | element es outer =>
    exact Machine.Completes.of_step (t := ⟨.rbracket, default⟩) rfl (completes_after outer _)
  | elementEnd es outer =>
    exact Machine.Completes.of_step (t := ⟨.rbracket, default⟩) rfl (completes_after outer _)
  | key fs outer =>
    exact Machine.Completes.of_step (t := ⟨.rbrace, default⟩) rfl (completes_after outer _)
  | colon fs k outer =>
    exact Machine.Completes.of_step (t := ⟨.colon, default⟩) rfl (hvalue (.object fs k :: outer))
  | fieldEnd fs outer =>
    exact Machine.Completes.of_step (t := ⟨.rbrace, default⟩) rfl (completes_after outer _)
  | done v => exact ⟨[], v, rfl⟩

theorem describes_value (outer : List Frame) (t : Token) :
    Label.value.describes t = (LiteralState.begin? outer t).isSome := by
  cases t with
  | word w =>
    simp only [Label.describes, LiteralState.begin?]
    by_cases h₁ : w = "true"
    · simp [h₁]
    · by_cases h₂ : w = "false" <;> simp [h₁, h₂]
  | _ => rfl

/-- **The labels of a state are those of the tokens with a step.** -/
theorem LiteralState.any_describes (s : LiteralState) (t : Token) :
    s.expected.any (fun l => l.describes t) = (s.step t).isSome := by
  cases s with
  | value outer => rw [step, ← describes_value outer t]; exact Bool.or_false _
  | element es outer =>
    rw [expected, List.any_cons, describes_value (.array es :: outer) t]
    cases t with
    | rbracket => rfl
    | _ => exact Bool.or_false _
  | _ => cases t <;> rfl

theorem LiteralState.endOfInput_mem_iff (s : LiteralState) :
    .endOfInput ∈ s.expected ↔ ∃ v, s.result = some v := by
  cases s <;> simp [expected, result]

/-- A value derives the tokens. -/
def DerivesValue (ts : List (Located Token)) : Prop :=
  ∃ v : ValueTree, v.tokens = ts

/-- **The reader of literals predicts** what the grammar of values allows. -/
theorem literalReader_predictive : Predictive literalReader DerivesValue where
  accepts ts := by
    constructor
    · rintro ⟨v, hv⟩
      exact ⟨v.literal, run_literalReader_eq_ok_iff.2 ⟨v, hv, rfl⟩⟩
    · rintro ⟨x, hx⟩
      obtain ⟨v, hv, -⟩ := run_literalReader_eq_ok_iff.1 hx
      exact ⟨v, hv⟩
  completes _ s _ := s.completes
  describes _ s _ t := s.any_describes t.val
  finishes _ s _ := s.endOfInput_mem_iff

/-! ### The reader of declarations -/

namespace DeclarationState

variable {s : DeclarationState}

/-- While a literal is read, it is not complete yet. -/
def Reading (s : DeclarationState) : Prop :=
  ∀ owner name v, s.stage ≠ .properties owner name (.done v)

theorem reading_start : declarationReader.start.Reading :=
  nofun

theorem reading_during (owner : Owner) (name : Name) (r : LiteralState) :
    (s.during owner name r).Reading := by
  cases r with
  | done v => cases owner <;> exact nofun
  | _ => exact nofun

/-- **Every step leads to a literal that is not complete yet,** or out of it. -/
theorem Reading.of_step {s s' : DeclarationState} {t : Located Token}
    (h : declarationReader.step s t = some s') : s'.Reading := by
  obtain ⟨finished, stage⟩ := s
  cases stage with
  | properties owner name r =>
    have hs := step_properties (s := ⟨finished, .top⟩) owner name r t
    obtain ⟨r', -, rfl⟩ := Option.map_eq_some_iff.1 (hs.symm.trans h)
    exact reading_during owner name r'
  | top =>
    obtain ⟨t, span⟩ := t
    cases t with
    | word w =>
      obtain ⟨stage, hstage, rfl⟩ := Option.map_eq_some_iff.1 h
      rcases Stage.ofKeyword?_eq_some_iff.1 hstage with
        ⟨-, rfl⟩ | ⟨-, rfl⟩ | ⟨-, rfl⟩ | ⟨-, rfl⟩ <;> exact nofun
    | _ => cases h
  | templateHead name =>
    rcases (templateHead.step_head ⟨finished, .top⟩ name t s').1 h with
      ⟨left, -, rfl⟩ | ⟨k, -, rfl⟩ <;> exact nofun
  | systemHead name =>
    rcases (systemHead.step_head ⟨finished, .top⟩ name t s').1 h with
      ⟨left, -, rfl⟩ | ⟨k, -, rfl⟩ <;> exact nofun
  | requirement o =>
    obtain ⟨t, span⟩ := t
    cases t with
    | word w =>
      obtain ⟨kind, -, rfl⟩ := Option.map_eq_some_iff.1 h
      exact nofun
    | rbrace => cases h; exact nofun
    | _ => cases h
  | _ =>
    obtain ⟨t, span⟩ := t
    cases t <;> cases h <;> exact nofun

theorem Reading.of_advance : ∀ {ts : List (Located Token)} {s s' : DeclarationState},
    s.Reading → declarationReader.advance s ts = some s' → s'.Reading
  | [], s, s', hs, h => by cases h; exact hs
  | t :: ts, s, s', _, h => by
    obtain ⟨s₁, h₁, h⟩ := Option.bind_eq_some_iff.1 h
    exact of_advance (of_step h₁) h

/-! From every stage the declaration can be finished. -/

theorem completes_top : declarationReader.Completes (s.enter .top) :=
  ⟨[], s.finished.reverse, rfl⟩

theorem completes_finish (d : Declaration) : declarationReader.Completes (s.finish d) :=
  completes_top (s := s.finish d)

theorem completes_close (c : Component) (owner : Owner) :
    declarationReader.Completes (s.close c owner) := by
  cases owner with
  | component => exact completes_finish _
  | template o =>
    exact Machine.Completes.of_step (t := ⟨.rbrace, default⟩) rfl (completes_finish _)

theorem completes_propertiesOpen (owner : Owner) (name : Name) :
    declarationReader.Completes (s.enter (.propertiesOpen owner name)) :=
  Machine.Completes.of_advance
    (PropertiesTree.advance_tokens ⟨default, none, default⟩ owner name) (completes_close _ owner)

theorem completes_instanceName (o : OpenTemplate) :
    declarationReader.Completes (s.enter (.instanceName o)) :=
  Machine.Completes.of_advance (advance_instances [] o default) (completes_finish _)

theorem completes_requirement (o : OpenSystem) :
    declarationReader.Completes (s.enter (.requirement o)) :=
  Machine.Completes.of_advance (advance_requirement none o default) (completes_finish _)

theorem completes_requirementEnd (q : System) :
    declarationReader.Completes (s.enter (.requirementEnd q)) :=
  Machine.Completes.of_step (t := ⟨.rbrace, default⟩) rfl (completes_finish _)

theorem completes_requirementOpen (o : OpenSystem) (kind : RequirementKind) :
    declarationReader.Completes (s.enter (.requirementOpen o kind)) :=
  Machine.Completes.of_advance (advance_names ⟨default, none, default⟩ o kind)
    (completes_requirementEnd _)

/-- **From every state that is reached the declarations can be finished.** -/
theorem Reading.completes (h : s.Reading) : declarationReader.Completes s := by
  obtain ⟨finished, stage⟩ := s
  let s : DeclarationState := ⟨finished, .top⟩
  show declarationReader.Completes (s.enter stage)
  have hname : ∀ {stage stage' : Stage}, declarationReader.step (s.enter stage)
      ⟨.word "x", default⟩ = some (s.enter stage') →
        declarationReader.Completes (s.enter stage') →
          declarationReader.Completes (s.enter stage) :=
    Machine.Completes.of_step
  have hbrace : ∀ {stage stage' : Stage}, declarationReader.step (s.enter stage)
      ⟨.lbrace, default⟩ = some (s.enter stage') →
        declarationReader.Completes (s.enter stage') →
          declarationReader.Completes (s.enter stage) :=
    Machine.Completes.of_step
  cases stage with
  | top => exact completes_top
  | projectName keyword =>
    exact Machine.Completes.of_step (t := ⟨.word "x", default⟩) rfl (completes_finish _)
  | componentName => exact hname rfl (completes_propertiesOpen _ _)
  | propertiesOpen owner name => exact completes_propertiesOpen owner name
  | properties owner name r =>
    obtain ⟨ts, v, hv⟩ := r.completes
    obtain ⟨r', hr, hr'⟩ := Machine.runFrom_eq_ok_iff.1 hv
    have hadvance := advance_reading (s := s) owner name hr
    cases r with
    | done w => exact absurd rfl (h owner name w)
    | _ =>
      cases r' with
      | done w => exact Machine.Completes.of_advance hadvance (completes_close _ owner)
      | _ => cases hr'
  | templateName => exact hname rfl (hbrace rfl (completes_instanceName _))
  | templateHead name => exact hbrace rfl (completes_instanceName _)
  | templateParent name => exact hname rfl (hbrace rfl (completes_instanceName _))
  | templateOpen name parent => exact hbrace rfl (completes_instanceName _)
  | instanceName o => exact completes_instanceName o
  | instanceEnd o =>
    exact Machine.Completes.of_step (t := ⟨.comma, default⟩) rfl (completes_instanceName o)
  | systemName => exact hname rfl (hbrace rfl (completes_requirement _))
  | systemHead name => exact hbrace rfl (completes_requirement _)
  | systemParent name => exact hname rfl (hbrace rfl (completes_requirement _))
  | systemOpen name parent => exact hbrace rfl (completes_requirement _)
  | requirement o => exact completes_requirement o
  | requirementColon o kind =>
    exact Machine.Completes.of_step (t := ⟨.colon, default⟩) rfl (completes_requirementOpen o kind)
  | requirementOpen o kind => exact completes_requirementOpen o kind
  | requiredName o kind names =>
    exact Machine.Completes.of_step (t := ⟨.rbracket, default⟩) rfl (completes_requirementEnd _)
  | requiredEnd o kind names =>
    exact Machine.Completes.of_step (t := ⟨.rbracket, default⟩) rfl (completes_requirementEnd _)
  | requirementEnd q => exact completes_requirementEnd q
  | systemEnd q =>
    exact Machine.Completes.of_step (t := ⟨.rbrace, default⟩) rfl (completes_finish _)

/-- **The labels of a stage are those of the tokens with a step.** -/
theorem any_describes (s : DeclarationState) (t : Located Token) :
    s.stage.expected.any (fun l => l.describes t.val) = (declarationReader.step s t).isSome := by
  obtain ⟨finished, stage⟩ := s
  obtain ⟨t, span⟩ := t
  cases stage with
  | properties owner name r =>
    have hs := step_properties (s := ⟨finished, .top⟩) owner name r ⟨t, span⟩
    rw [show declarationReader.step ⟨finished, .properties owner name r⟩ ⟨t, span⟩ = _ from hs,
      Option.isSome_map]
    exact r.any_describes t
  | top =>
    cases t with
    | word w =>
      simp only [Stage.expected, declarationReader, DeclarationState.step, Stage.ofKeyword?]
      split_ifs <;> simp_all [Label.describes]
    | _ => rfl
  | requirement o =>
    cases t with
    | word w =>
      simp only [Stage.expected, declarationReader, DeclarationState.step,
        RequirementKind.ofKeyword?]
      split_ifs <;> simp_all [Label.describes]
    | _ => rfl
  | templateHead name | systemHead name =>
    cases t with
    | word w => by_cases h : w = "extends" <;>
        simp [Stage.expected, declarationReader, DeclarationState.step, Label.describes, h]
    | _ => rfl
  | _ => cases t <;> rfl

theorem endOfInput_mem_iff (h : s.Reading) :
    .endOfInput ∈ s.stage.expected ↔ ∃ ds, declarationReader.result s = some ds := by
  obtain ⟨finished, stage⟩ := s
  cases stage with
  | properties owner name r =>
    cases r with
    | done v => exact absurd rfl (h owner name v)
    | _ => simp [Stage.expected, LiteralState.expected, declarationReader, result]
  | _ => simp [Stage.expected, declarationReader, result]

end DeclarationState

/-- A description derives the tokens. -/
def DerivesDescription (ts : List (Located Token)) : Prop :=
  ∃ d : DescriptionTree, d.tokens = ts

/-- **The reader of declarations predicts** what the grammar of descriptions allows. -/
theorem declarationReader_predictive : Predictive declarationReader DerivesDescription where
  accepts ts := by
    constructor
    · rintro ⟨d, hd⟩
      exact ⟨_, run_declarationReader_eq_ok_iff.2 ⟨d, hd, rfl⟩⟩
    · rintro ⟨ds, hds⟩
      obtain ⟨d, hd, -⟩ := run_declarationReader_eq_ok_iff.1 hds
      exact ⟨d, hd⟩
  completes ts s hs :=
    (DeclarationState.Reading.of_advance DeclarationState.reading_start hs).completes
  describes ts s _ t := s.any_describes t
  finishes ts s hs :=
    DeclarationState.endOfInput_mem_iff (.of_advance DeclarationState.reading_start hs)

/-! ### Parsing -/

end EntityForge
