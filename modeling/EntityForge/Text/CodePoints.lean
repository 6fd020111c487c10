/-! # Sets of code points

Two compact forms for a set of code points. A marked list is increasing and names the places where
membership changes, so a number is in the set when an odd number of marks is not beyond it. A stride
is an arithmetic progression. -/

namespace EntityForge.Text

/-- Membership in the set whose bounds are `marks`: the first opens it, the second closes it, and so
on. -/
def inMarked (marks : List Nat) (n : Nat) : Bool :=
  marks.countP (· ≤ n) % 2 == 1

/-- The numbers `first`, `first + step`, … up to `last`. -/
structure Stride where
  first : Nat
  last : Nat
  step : Nat
  deriving DecidableEq, Repr

/-- Membership in a stride. -/
def Stride.contains (s : Stride) (n : Nat) : Bool :=
  s.first ≤ n && n ≤ s.last && (n - s.first) % s.step == 0

end EntityForge.Text
