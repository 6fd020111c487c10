import EntityForge.Text.Span
import EntityForge.Grammar.Label

/-! # Predictive machines

A predictive machine reads tokens one by one and never goes back. A state knows the labels of what
may come next, so a token without a step is reported at once, with everything that would have been
possible there: the error always stands at the first token that no continuation could have saved.

* `Machine`: the states, the step and the finished states of a reader.
* `Machine.run`: reads a list of tokens to its end.
* `Mismatch`: where and why the reading stopped. -/

namespace EntityForge

/-- **A reader** of tokens with states `σ` and results `α`. -/
structure Machine (σ α : Type) where
  start : σ
  step : σ → Located Token → Option σ
  expected : σ → List Label
  result : σ → Option α

/-- **Why a reading stopped:** the token found (none at the end of the input) and the labels of what
was expected. -/
structure Mismatch where
  found : Option (Located Token)
  expected : List Label
  deriving DecidableEq, Repr

/-- Reads tokens from a given state. -/
def Machine.runFrom {σ α : Type} (m : Machine σ α) (s : σ) :
    List (Located Token) → Except Mismatch α
  | [] =>
    match m.result s with
    | some a => .ok a
    | none => .error ⟨none, m.expected s⟩
  | t :: ts =>
    match m.step s t with
    | some s' => m.runFrom s' ts
    | none => .error ⟨some t, m.expected s⟩

/-- **Reads a list of tokens** to its end. -/
def Machine.run {σ α : Type} (m : Machine σ α) (ts : List (Located Token)) : Except Mismatch α :=
  m.runFrom m.start ts

end EntityForge
