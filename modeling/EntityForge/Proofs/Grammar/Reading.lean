import EntityForge.Proofs.Grammar.Tree

/-! # How a machine reads

A machine goes from state to state along the tokens, `advance`, and a run is decided by the state it
ends in or gets stuck in. Three kinds of lists with commas occur in the grammar and every machine
reads them the same way, so how that goes is said once.

* `advance`: the state after some tokens.
* `runFrom_eq_ok_iff`, `exists_of_runFrom_eq_error`: the two outcomes of a run.
* `ListStates`: the states of a machine inside a list with commas.
* `ListStates.advance_inside`: a list that is derived is read.
* `ListStates.exists_inside`: a list that is read is derived. -/

namespace EntityForge

namespace Machine

variable {σ α : Type} (m : Machine σ α)

/-- **The state after some tokens,** if each of them has a step. -/
def advance (s : σ) : List (Located Token) → Option σ
  | [] => some s
  | t :: ts => (m.step s t).bind fun s' => advance s' ts

@[simp] theorem advance_nil (s : σ) : m.advance s [] = some s := rfl

theorem advance_cons (s : σ) (t : Located Token) (ts : List (Located Token)) :
    m.advance s (t :: ts) = (m.step s t).bind fun s' => m.advance s' ts := rfl

theorem advance_append : ∀ (as bs : List (Located Token)) (s : σ),
    m.advance s (as ++ bs) = (m.advance s as).bind fun s' => m.advance s' bs
  | [], bs, s => rfl
  | a :: as, bs, s => by
    rw [List.cons_append, advance_cons, advance_cons, Option.bind_assoc]
    exact Option.bind_congr fun s' _ => advance_append as bs s'

variable {m}

theorem advance_cons_of {s s' : σ} {t : Located Token} (h : m.step s t = some s')
    (ts : List (Located Token)) : m.advance s (t :: ts) = m.advance s' ts := by
  rw [advance_cons, h, Option.bind_some]

theorem advance_append_of {s s' : σ} {as : List (Located Token)} (h : m.advance s as = some s')
    (bs : List (Located Token)) : m.advance s (as ++ bs) = m.advance s' bs := by
  rw [advance_append, h, Option.bind_some]

/-! ### Runs -/

theorem runFrom_nil_eq_ok_iff {s : σ} {a : α} : m.runFrom s [] = .ok a ↔ m.result s = some a := by
  unfold runFrom
  split
  · next h => simp [h]
  · next h => simp [h]

theorem runFrom_cons_eq_ok_iff {s : σ} {t : Located Token} {ts : List (Located Token)} {a : α} :
    m.runFrom s (t :: ts) = .ok a ↔ ∃ s', m.step s t = some s' ∧ m.runFrom s' ts = .ok a := by
  rw [runFrom]
  split
  · next s' h => simp [h]
  · next h => simp [h]

/-- **A run succeeds** if all tokens have a step and the last state is finished. -/
theorem runFrom_eq_ok_iff {a : α} : ∀ {ts : List (Located Token)} {s : σ},
    m.runFrom s ts = .ok a ↔ ∃ s', m.advance s ts = some s' ∧ m.result s' = some a
  | [], s => by simp [runFrom_nil_eq_ok_iff]
  | t :: ts, s => by
    rw [runFrom_cons_eq_ok_iff, advance_cons]
    constructor
    · rintro ⟨s₁, h₁, h⟩
      obtain ⟨s', h', ha⟩ := runFrom_eq_ok_iff.1 h
      exact ⟨s', by rw [h₁, Option.bind_some, h'], ha⟩
    · rintro ⟨s', h, ha⟩
      obtain ⟨s₁, h₁, h'⟩ := Option.bind_eq_some_iff.1 h
      exact ⟨s₁, h₁, runFrom_eq_ok_iff.2 ⟨s', h', ha⟩⟩

theorem runFrom_append_of {s s' : σ} : ∀ {as : List (Located Token)}, m.advance s as = some s' →
    ∀ bs, m.runFrom s (as ++ bs) = m.runFrom s' bs := by
  intro as
  induction as generalizing s with
  | nil => intro h bs; cases h; rfl
  | cons a as ih =>
    intro h bs
    obtain ⟨s₁, h₁, h'⟩ := Option.bind_eq_some_iff.1 h
    rw [List.cons_append, runFrom, h₁]
    exact ih h' bs

/-- **A run fails** at the first token without a step, or at the end. -/
theorem exists_of_runFrom_eq_error {e : Mismatch} : ∀ {ts : List (Located Token)} {s : σ},
    m.runFrom s ts = .error e →
      (∃ before t rest s', ts = before ++ t :: rest ∧ m.advance s before = some s' ∧
        m.step s' t = none ∧ e = ⟨some t, m.expected s'⟩) ∨
      ∃ s', m.advance s ts = some s' ∧ m.result s' = none ∧ e = ⟨none, m.expected s'⟩
  | [], s, h => by
    right
    rw [runFrom] at h
    split at h
    · cases h
    · next hr => exact ⟨s, rfl, hr, by injection h with h; exact h.symm⟩
  | t :: ts, s, h => by
    rw [runFrom] at h
    split at h
    · next s₁ hs =>
      rcases exists_of_runFrom_eq_error h with ⟨before, u, rest, s', rfl, ha, hu, he⟩ | ⟨s', ha, hr⟩
      · exact Or.inl ⟨t :: before, u, rest, s', rfl, by rw [advance_cons_of hs, ha], hu, he⟩
      · exact Or.inr ⟨s', by rw [advance_cons_of hs, ha], hr⟩
    · next hs => exact Or.inl ⟨[], t, ts, s, rfl, rfl, hs, by injection h with h; exact h.symm⟩

end Machine

/-! ### Lists with commas -/

/-- **The states of a machine inside a list** that ends with the bracket `right`: before an entry,
after an entry, and behind the bracket. What has been read is listed latest first. -/
structure ListStates {σ α : Type} (m : Machine σ α) (β : Type) (right : Token) where
  before : List β → σ
  after : List β → σ
  closed : List β → σ
  step_comma : ∀ acc span, m.step (after acc) ⟨.comma, span⟩ = some (before acc)
  step_right : ∀ acc span, m.step (after acc) ⟨right, span⟩ = some (closed acc)
  step_right_before : ∀ acc span, m.step (before acc) ⟨right, span⟩ = some (closed acc)
  cases_after : ∀ acc t s, m.step (after acc) t = some s → t.val = .comma ∨ t.val = right
  result_after : ∀ acc, m.result (after acc) = none

namespace ListStates

variable {σ α β γ : Type} {m : Machine σ α} {right : Token} (L : ListStates m β right)
  (f : γ → List (Located Token)) (g : γ → β)

theorem advance_others : ∀ (others : List (Span × γ)) (acc : List β),
    (∀ p ∈ others, ∀ acc, m.advance (L.before acc) (f p.2) = some (L.after (g p.2 :: acc))) →
      m.advance (L.after acc) (tokensBehindCommas f others) =
        some (L.after ((others.map fun p => g p.2).reverse ++ acc))
  | [], acc, _ => rfl
  | p :: others, acc, h => by
    obtain ⟨hp, ho⟩ := List.forall_mem_cons.1 h
    rw [tokensBehindCommas_cons, Machine.advance_cons_of (L.step_comma acc p.1),
      Machine.advance_append_of (hp acc), advance_others others _ ho]
    simp

theorem advance_closing (acc : List β) (trailing : Option Span) (closing : Span) :
    m.advance (L.after acc) (optionalComma trailing ++ [⟨right, closing⟩]) =
      some (L.closed acc) := by
  rcases trailing with _ | c
  · exact Machine.advance_cons_of (L.step_right acc closing) []
  · rw [optionalComma_some, List.singleton_append,
      Machine.advance_cons_of (L.step_comma acc c),
      Machine.advance_cons_of (L.step_right_before acc closing), Machine.advance_nil]

/-- **A list whose entries can be read is read** up to its closing bracket. -/
theorem advance_inside (entries : Option (CommaList γ)) (closing : Span)
    (h : ∀ a ∈ itemsInside entries, ∀ acc,
      m.advance (L.before acc) (f a) = some (L.after (g a :: acc))) :
    m.advance (L.before []) (tokensInside f entries ++ [⟨right, closing⟩]) =
      some (L.closed ((itemsInside entries).map g).reverse) := by
  rcases entries with _ | ⟨first, others, trailing⟩
  · exact Machine.advance_cons_of (L.step_right_before [] closing) []
  · obtain ⟨hf, ho⟩ := List.forall_mem_cons.1 h
    rw [tokensInside_some, CommaList.tokens, List.append_assoc, List.append_assoc,
      Machine.advance_append_of (hf []),
      Machine.advance_append_of (L.advance_others f g others _ fun p hp =>
        ho p.2 (List.mem_map_of_mem hp)),
      L.advance_closing]
    simp [CommaList.items, Function.comp_def]

variable {f g}

/-- What the machine accepts after an entry is the rest of a list and something behind it. The
entries themselves are covered by the hypothesis `h`, for lists of at most `n` tokens. -/
theorem exists_others {n : ℕ} {x : α}
    (h : ∀ acc ts, ts.length < n → m.runFrom (L.before acc) ts = .ok x →
      (∃ span rest, ts = ⟨right, span⟩ :: rest) ∨
        ∃ a rest, ts = f a ++ rest ∧ m.runFrom (L.after (g a :: acc)) rest = .ok x) :
    ∀ (k : ℕ) (acc : List β) (ts : List (Located Token)), ts.length ≤ k → k ≤ n →
      m.runFrom (L.after acc) ts = .ok x →
        ∃ others trailing closing rest,
          ts = tokensBehindCommas f others ++ (optionalComma trailing ++ ⟨right, closing⟩ :: rest) ∧
          m.runFrom (L.closed ((others.map fun p => g p.2).reverse ++ acc)) rest = .ok x := by
  intro k
  induction k with
  | zero =>
    intro acc ts hk _ hx
    rw [List.length_eq_zero_iff.1 (Nat.le_zero.1 hk), Machine.runFrom_nil_eq_ok_iff,
      L.result_after] at hx
    cases hx
  | succ k ih =>
    intro acc ts hk hn hx
    rcases ts with _ | ⟨⟨t, span⟩, ts⟩
    · rw [Machine.runFrom_nil_eq_ok_iff, L.result_after] at hx
      cases hx
    have hlen : ts.length ≤ k := by simpa using hk
    obtain ⟨s', hs, hx⟩ := Machine.runFrom_cons_eq_ok_iff.1 hx
    rcases L.cases_after acc _ s' hs with rfl | rfl
    · rw [L.step_comma] at hs
      cases hs
      rcases h acc ts (by omega) hx with ⟨closing, rest, rfl⟩ | ⟨a, rest, rfl, ha⟩
      · obtain ⟨s', hs, hx⟩ := Machine.runFrom_cons_eq_ok_iff.1 hx
        rw [L.step_right_before] at hs
        cases hs
        exact ⟨[], some span, closing, rest, rfl, hx⟩
      · rw [List.length_append] at hlen
        obtain ⟨others, trailing, closing, rest', rfl, hr⟩ :=
          ih (g a :: acc) rest (by omega) (by omega) ha
        exact ⟨(span, a) :: others, trailing, closing, rest', by simp, by simpa using hr⟩
    · rw [L.step_right] at hs
      cases hs
      exact ⟨[], none, span, ts, rfl, hx⟩

/-- **What the machine accepts inside a list is a list** and something behind it. -/
theorem exists_inside {x : α} (ts : List (Located Token))
    (h : ∀ acc us, us.length ≤ ts.length → m.runFrom (L.before acc) us = .ok x →
      (∃ span rest, us = ⟨right, span⟩ :: rest) ∨
        ∃ a rest, us = f a ++ rest ∧ m.runFrom (L.after (g a :: acc)) rest = .ok x)
    (hx : m.runFrom (L.before []) ts = .ok x) :
    ∃ entries closing rest, ts = tokensInside f entries ++ ⟨right, closing⟩ :: rest ∧
      m.runFrom (L.closed ((itemsInside entries).map g).reverse) rest = .ok x := by
  rcases h [] ts (Nat.le_refl _) hx with ⟨closing, rest, rfl⟩ | ⟨a, rest, rfl, ha⟩
  · obtain ⟨s', hs, hx⟩ := Machine.runFrom_cons_eq_ok_iff.1 hx
    rw [L.step_right_before] at hs
    cases hs
    exact ⟨none, closing, rest, rfl, hx⟩
  · obtain ⟨others, trailing, closing, rest', rfl, hr⟩ :=
      L.exists_others (n := (f a ++ rest).length)
        (fun acc us hus => h acc us (Nat.le_of_lt hus)) rest.length [g a] rest (Nat.le_refl _)
        (by simp) ha
    refine ⟨some ⟨a, others, trailing⟩, closing, rest', by simp [CommaList.tokens], ?_⟩
    simpa [CommaList.items, Function.comp_def] using hr

end ListStates

end EntityForge
