import EntityForge.Script.Expression
import Mathlib.Data.List.Infix

/-! # Where a comment is closed

A comment ends with the first star that stands before a slash. How often a text closes a comment is
counted piece by piece, with a look at the seam between two pieces. Quotes around a text change
nothing, since neither a star nor a slash is escaped.

* `closings`, `behindComment`: the places that close a comment, and what stands behind the first.
* `closings_append`: two texts, one behind the other.
* `behindComment_eq_iff`: a comment is closed at its end if nothing in it closes it.
* `closings_quoted`: a quoted text. -/

namespace EntityForge

open Script

/-- **How often a text closes a comment:** the places where a star stands before a slash. -/
def closings (text : List Char) : ℕ :=
  (text.zip text.tail).count ('*', '/')

/-- **What stands behind a comment,** given what stands behind its opening: it ends with the first
star before a slash. -/
def behindComment : List Char → Option (List Char)
  | [] => none
  | c :: text =>
    if c = '*' ∧ text.head? = some '/' then some text.tail else behindComment text

/-- Whether a text that ends in `last` and one that starts with `first` close a comment between
them. -/
def closesBetween (last first : Option Char) : ℕ :=
  if last = some '*' ∧ first = some '/' then 1 else 0

theorem closings_cons (c : Char) (text : List Char) :
    closings (c :: text) = closesBetween (some c) text.head? + closings text := by
  rcases text with _ | ⟨d, text⟩
  · simp [closings, closesBetween]
  · simp [closings, closesBetween, List.count_cons, Nat.add_comm]

theorem closings_append (a b : List Char) :
    closings (a ++ b) = closings a + closesBetween a.getLast? b.head? + closings b := by
  induction a with
  | nil => simp [closings, closesBetween]
  | cons c a ih =>
    rw [List.cons_append, closings_cons, closings_cons, ih]
    rcases a with _ | ⟨d, a⟩
    · simp [closings, closesBetween]
    · simp only [List.cons_append, List.head?_cons, List.getLast?_cons_cons]
      omega

theorem closings_append_of_head {a b : List Char} (h : b.head? ≠ some '/') :
    closings (a ++ b) = closings a + closings b := by
  rw [closings_append, closesBetween, if_neg fun hboth => h hboth.2, Nat.add_zero]

theorem closings_append_of_last {a b : List Char} (h : a.getLast? ≠ some '*') :
    closings (a ++ b) = closings a + closings b := by
  rw [closings_append, closesBetween, if_neg fun hboth => h hboth.1, Nat.add_zero]

theorem closings_eq_zero_of_not_mem {text : List Char} (h : '*' ∉ text) : closings text = 0 :=
  List.count_eq_zero.2 fun hmem => h (List.of_mem_zip hmem).1

theorem closings_eq_zero_iff {text : List Char} :
    closings text = 0 ↔ ¬ ['*', '/'] <:+: text := by
  induction text with
  | nil => decide
  | cons c text ih =>
    rw [closings_cons, List.infix_cons_iff, not_or, ← ih, Nat.add_eq_zero_iff]
    refine and_congr_left fun _ => ?_
    rcases text with _ | ⟨d, text⟩
    · simp [closesBetween]
    · simp [closesBetween, List.cons_prefix_cons, eq_comm]

theorem exists_behindComment_append {inside : List Char} (h : closings inside ≠ 0)
    (rest : List Char) : ∃ more, behindComment (inside ++ rest) = some (more ++ rest) := by
  induction inside with
  | nil => exact absurd rfl h
  | cons c inside ih =>
    rw [List.cons_append, behindComment]
    rcases inside with _ | ⟨d, inside⟩
    · exact absurd rfl h
    · split_ifs with hclose
      · exact ⟨inside, rfl⟩
      · rw [closings_cons, closesBetween, if_neg (by simpa using hclose), Nat.zero_add] at h
        exact ih h

/-- **A comment is closed at its end** exactly if nothing in it closes it. -/
theorem behindComment_eq_iff (inside code : List Char) :
    behindComment (inside ++ '*' :: '/' :: code) = some code ↔ closings inside = 0 := by
  constructor
  · intro h
    by_contra hclosed
    obtain ⟨more, hmore⟩ := exists_behindComment_append hclosed ('*' :: '/' :: code)
    have hlength := congrArg List.length (Option.some.inj (hmore.symm.trans h))
    simp at hlength
    omega
  · intro h
    induction inside with
    | nil => rfl
    | cons c inside ih =>
      rw [closings_cons, Nat.add_eq_zero_iff] at h
      rw [List.cons_append, behindComment, if_neg, ih h.2]
      rcases inside with _ | ⟨d, inside⟩
      · simp
      · simpa [closesBetween] using h.1

/-! ### Quoted texts -/

theorem quoteChar_cases (c : Char) : (quoteChar c = [c] ∧ c ≠ '\n') ∨
    ∃ x, quoteChar c = ['\\', x] ∧ c ≠ '*' ∧ c ≠ '/' ∧ x ≠ '*' ∧ x ≠ '\n' := by
  unfold quoteChar
  split_ifs with h₁ h₂ h₃ h₄ h₅
  · exact Or.inr ⟨_, rfl, by simp [h₁]⟩
  · exact Or.inr ⟨_, rfl, by simp [h₂]⟩
  · exact Or.inr ⟨_, rfl, by simp [h₃]⟩
  · exact Or.inr ⟨_, rfl, by simp [h₄]⟩
  · exact Or.inr ⟨_, rfl, by simp [h₅]⟩
  · exact Or.inl ⟨rfl, h₃⟩

/-- **Quotes do not touch what closes a comment.** -/
theorem closings_quoted (cs : List Char) : closings (cs.flatMap quoteChar) = closings cs := by
  have hhead : ∀ cs : List Char, (cs.flatMap quoteChar).head? = some '/' ↔ cs.head? = some '/' := by
    intro cs
    rcases cs with _ | ⟨c, cs⟩
    · rfl
    · rcases quoteChar_cases c with ⟨hc, -⟩ | ⟨x, hc, -, hslash, -⟩
      · simp [hc]
      · simp [hc, hslash]
  induction cs with
  | nil => rfl
  | cons c cs ih =>
    rw [List.flatMap_cons, closings_cons]
    rcases quoteChar_cases c with ⟨hc, -⟩ | ⟨x, hc, hstar, -, hx, -⟩
    · rw [hc, List.singleton_append, closings_cons, ih]
      simp only [closesBetween, hhead]
    · rw [hc, closings_append_of_last (by simp [hx]), ih]
      have hpair : closings ['\\', x] = 0 := closings_eq_zero_of_not_mem (by simp [hx.symm])
      simp [hpair, closesBetween, hstar]

theorem newline_not_mem_quoted (cs : List Char) : '\n' ∉ cs.flatMap quoteChar := by
  intro hmem
  obtain ⟨c, -, hc⟩ := List.mem_flatMap.1 hmem
  rcases quoteChar_cases c with ⟨hquote, hne⟩ | ⟨x, hquote, -, -, -, hne⟩
  · simp [hquote, hne.symm] at hc
  · simp [hquote, hne.symm] at hc

end EntityForge
