import EntityForge.Token.Scan
import Mathlib.Data.List.TakeWhile

/-! # How numbers are spelled

A number is spelled `-?[0-9]+(\.[0-9]+)?([eE][+-]?[0-9]+)?`. The scanner takes the longest number at
the start of a text; here its choice is compared with the pattern.

* `IsNumber`: the pattern, part by part.
* `isNumber_numberPart`: what the scanner takes as a number matches the pattern.
* `numberPart_append`: a number is taken whole if nothing behind it could go on with it.
* `isNumber_iff`: so the scanner decides the pattern. -/

namespace EntityForge

/-- `[0-9]+`. -/
def IsDigits (cs : List Char) : Prop :=
  cs ≠ [] ∧ ∀ c ∈ cs, c.isDigit

/-- `(\.[0-9]+)?`. -/
def IsFraction (cs : List Char) : Prop :=
  cs = [] ∨ ∃ digits, IsDigits digits ∧ cs = '.' :: digits

/-- `([eE][+-]?[0-9]+)?`. -/
def IsExponent (cs : List Char) : Prop :=
  cs = [] ∨ ∃ e sign digits, (e = 'e' ∨ e = 'E') ∧ (sign = [] ∨ sign = ['+'] ∨ sign = ['-']) ∧
    IsDigits digits ∧ cs = e :: (sign ++ digits)

/-- **The spelling of a number:** `-?[0-9]+(\.[0-9]+)?([eE][+-]?[0-9]+)?`. -/
def IsNumber (cs : List Char) : Prop :=
  ∃ minus digits fraction exponent, (minus = [] ∨ minus = ['-']) ∧ IsDigits digits ∧
    IsFraction fraction ∧ IsExponent exponent ∧ cs = minus ++ (digits ++ (fraction ++ exponent))

theorem IsNumber.exists_cons {cs : List Char} (h : IsNumber cs) :
    ∃ c cs', cs = c :: cs' ∧ (c = '-' ∨ c.isDigit = true) := by
  obtain ⟨minus, digits, fraction, exponent, hm, ⟨hne, hall⟩, -, -, rfl⟩ := h
  obtain ⟨d, ds, rfl⟩ := List.exists_cons_of_ne_nil hne
  rcases hm with rfl | rfl
  · exact ⟨d, _, rfl, Or.inr (hall d List.mem_cons_self)⟩
  · exact ⟨'-', _, rfl, Or.inl rfl⟩

theorem IsNumber.mem {cs : List Char} (h : IsNumber cs) :
    ∀ c ∈ cs, c.isDigit = true ∨ c ∈ ['-', '.', 'e', 'E', '+'] := by
  obtain ⟨minus, digits, fraction, exponent, hminus, hdigits, hfraction, hexponent, rfl⟩ := h
  intro c hc
  simp only [List.mem_append] at hc
  rcases hc with hc | hc | hc | hc
  · rcases hminus with rfl | rfl
    · cases hc
    · exact Or.inr (by simp [List.mem_singleton.1 hc])
  · exact Or.inl (hdigits.2 c hc)
  · rcases hfraction with rfl | ⟨digits, hdigits, rfl⟩
    · cases hc
    · rcases List.mem_cons.1 hc with rfl | hc
      · exact Or.inr (by decide)
      · exact Or.inl (hdigits.2 c hc)
  · rcases hexponent with rfl | ⟨e, sign, digits, he, hsign, hdigits, rfl⟩
    · cases hc
    · rcases List.mem_cons.1 hc with rfl | hc
      · rcases he with rfl | rfl
        · exact Or.inr (by decide)
        · exact Or.inr (by decide)
      · rcases List.mem_append.1 hc with hc | hc
        · rcases hsign with rfl | rfl | rfl
          · cases hc
          · exact Or.inr (by simp [List.mem_singleton.1 hc])
          · exact Or.inr (by simp [List.mem_singleton.1 hc])
        · exact Or.inl (hdigits.2 c hc)

theorem IsNumber.not_mem {cs : List Char} (h : IsNumber cs) {c : Char} (hdigit : c.isDigit = false)
    (hmark : c ∉ ['-', '.', 'e', 'E', '+']) : c ∉ cs := by
  intro hmem
  rcases h.mem c hmem with hc | hc
  · rw [hdigit] at hc
    cases hc
  · exact hmark hc

/-! ### Natural numbers -/

theorem isDigits_toString (n : ℕ) : IsDigits (toString n).toList := by
  rw [Nat.toString_eq_ofList_toDigits, String.toList_ofList]
  exact ⟨Nat.toDigits_ne_nil, fun c hc => Nat.isDigit_of_mem_toDigits (by omega) (by omega) hc⟩

theorem eq_of_toString_eq {m n : ℕ} (h : (toString m).toList = (toString n).toList) : m = n := by
  simp only [Nat.toString_eq_ofList_toDigits, String.toList_ofList] at h
  rw [← Nat.ofDigitChars_ten_toDigits (n := m), h, Nat.ofDigitChars_ten_toDigits]

/-! ### Where a part ends -/

/-- The text does not start with a character of the class `p`. -/
def StopsAt (p : Char → Bool) (cs : List Char) : Prop :=
  ∀ c ∈ cs.head?, p c = false

@[simp] theorem stopsAt_nil (p : Char → Bool) : StopsAt p [] := nofun

@[simp] theorem stopsAt_cons {p : Char → Bool} {c : Char} {cs : List Char} :
    StopsAt p (c :: cs) ↔ p c = false := by
  simp [StopsAt]

theorem takeWhile_append_of_stopsAt {p : Char → Bool} {as bs : List Char} (ha : ∀ c ∈ as, p c)
    (hb : StopsAt p bs) : (as ++ bs).takeWhile p = as := by
  rw [List.takeWhile_append_of_pos ha]
  rcases bs with _ | ⟨b, bs⟩
  · simp
  · rw [List.takeWhile_cons_of_neg (by simpa using hb), List.append_nil]

/-- A character that could go on with a number. -/
def isNumberChar (c : Char) : Bool :=
  c.isDigit || c = '.' || c = 'e' || c = 'E'

/-! ### What is taken matches -/

theorem isDigits_digitsPart {cs : List Char} (h : digitsPart cs ≠ []) : IsDigits (digitsPart cs) :=
  ⟨h, fun _ hc => (List.mem_takeWhile_imp hc)⟩

theorem isFraction_fractionPart (cs : List Char) : IsFraction (fractionPart cs) := by
  unfold fractionPart
  split
  · split_ifs with h
    · exact Or.inl rfl
    · exact Or.inr ⟨_, isDigits_digitsPart h, rfl⟩
  · exact Or.inl rfl

theorem signPart_cases (cs : List Char) :
    signPart cs = [] ∨ signPart cs = ['+'] ∨ signPart cs = ['-'] := by
  unfold signPart
  split
  · exact Or.inr (Or.inl rfl)
  · exact Or.inr (Or.inr rfl)
  · exact Or.inl rfl

theorem isExponent_exponentPart (cs : List Char) : IsExponent (exponentPart cs) := by
  rcases cs with _ | ⟨e, cs⟩
  · exact Or.inl rfl
  · unfold exponentPart
    dsimp only
    split_ifs with h
    · exact Or.inr ⟨e, _, _, h.1, signPart_cases cs, isDigits_digitsPart h.2, rfl⟩
    · exact Or.inl rfl

theorem exists_unsignedPart {cs : List Char} (h : unsignedPart cs ≠ []) :
    ∃ digits fraction exponent, IsDigits digits ∧ IsFraction fraction ∧ IsExponent exponent ∧
      unsignedPart cs = digits ++ (fraction ++ exponent) := by
  unfold unsignedPart at h ⊢
  dsimp only at h ⊢
  split_ifs at h ⊢ with hd
  · exact absurd rfl h
  · exact ⟨_, _, _, isDigits_digitsPart hd, isFraction_fractionPart _, isExponent_exponentPart _,
      List.append_assoc _ _ _⟩

/-- **What the scanner takes as a number is spelled like one.** -/
theorem isNumber_numberPart {cs : List Char} (h : numberPart cs ≠ []) :
    IsNumber (numberPart cs) := by
  unfold numberPart at h ⊢
  split at h
  · next cs =>
    split_ifs at h ⊢ with hu
    · exact absurd rfl h
    · obtain ⟨digits, fraction, exponent, hd, hf, he, heq⟩ := exists_unsignedPart hu
      exact ⟨['-'], digits, fraction, exponent, Or.inr rfl, hd, hf, he, by rw [heq]; rfl⟩
  · obtain ⟨digits, fraction, exponent, hd, hf, he, heq⟩ := exists_unsignedPart h
    exact ⟨[], digits, fraction, exponent, Or.inl rfl, hd, hf, he, heq⟩

/-! ### What matches is taken whole -/

theorem digitsPart_append {digits rest : List Char} (hd : IsDigits digits)
    (hr : StopsAt Char.isDigit rest) : digitsPart (digits ++ rest) = digits :=
  takeWhile_append_of_stopsAt hd.2 hr

theorem StopsAt.isDigit {rest : List Char} (h : StopsAt isNumberChar rest) :
    StopsAt Char.isDigit rest := by
  intro c hc
  have hn := h c hc
  simp only [isNumberChar, Bool.or_eq_false_iff] at hn
  exact hn.1.1.1

theorem IsExponent.stopsAt_append {exponent rest : List Char} (he : IsExponent exponent)
    (hr : StopsAt isNumberChar rest) :
    StopsAt (fun c => c.isDigit || c = '.') (exponent ++ rest) := by
  rcases he with rfl | ⟨e, sign, digits, he, -, -, rfl⟩
  · intro c hc
    have hn := hr c hc
    simp only [isNumberChar, Bool.or_eq_false_iff] at hn ⊢
    exact hn.1.1
  · rcases he with rfl | rfl <;> simp only [List.cons_append, stopsAt_cons] <;> decide

theorem IsFraction.stopsAt_append {fraction rest : List Char} (hf : IsFraction fraction)
    (hr : StopsAt (fun c => c.isDigit || c = '.') rest) :
    StopsAt Char.isDigit (fraction ++ rest) := by
  rcases hf with rfl | ⟨digits, -, rfl⟩
  · intro c hc
    exact (Bool.or_eq_false_iff.1 (hr c hc)).1
  · simp only [List.cons_append, stopsAt_cons]
    decide

theorem fractionPart_append {fraction rest : List Char} (hf : IsFraction fraction)
    (hr : StopsAt (fun c => c.isDigit || c = '.') rest) :
    fractionPart (fraction ++ rest) = fraction := by
  rcases hf with rfl | ⟨digits, hd, rfl⟩
  · rw [List.nil_append]
    unfold fractionPart
    split
    · exact absurd hr (by simp)
    · rfl
  · have hstop : StopsAt Char.isDigit rest := fun c hc => (Bool.or_eq_false_iff.1 (hr c hc)).1
    rw [List.cons_append, fractionPart, digitsPart_append hd hstop, if_neg hd.1]

theorem signPart_append {sign digits rest : List Char}
    (hs : sign = [] ∨ sign = ['+'] ∨ sign = ['-']) (hd : IsDigits digits) :
    signPart (sign ++ (digits ++ rest)) = sign := by
  obtain ⟨hne, hall⟩ := hd
  rcases hs with rfl | rfl | rfl
  · rcases digits with _ | ⟨d, digits⟩
    · exact absurd rfl hne
    · have hd := hall d List.mem_cons_self
      rw [List.nil_append, List.cons_append]
      unfold signPart
      split
      · next h => cases h; exact absurd hd (by decide)
      · next h => cases h; exact absurd hd (by decide)
      · rfl
  · rfl
  · rfl

theorem exponentPart_append {exponent rest : List Char} (he : IsExponent exponent)
    (hr : StopsAt isNumberChar rest) : exponentPart (exponent ++ rest) = exponent := by
  rcases he with rfl | ⟨e, sign, digits, he, hs, hd, rfl⟩
  · rcases rest with _ | ⟨c, rest⟩
    · rfl
    · have hc : ¬ (c = 'e' ∨ c = 'E') := by
        have hn := stopsAt_cons.1 hr
        simp only [isNumberChar, Bool.or_eq_false_iff, decide_eq_false_iff_not] at hn
        rintro (h | h)
        · exact hn.1.2 h
        · exact hn.2 h
      exact if_neg fun h => hc h.1
  · rw [List.cons_append, List.append_assoc]
    unfold exponentPart
    dsimp only
    rw [signPart_append hs hd, List.drop_left, digitsPart_append hd hr.isDigit]
    exact if_pos ⟨he, hd.1⟩

theorem unsignedPart_append {digits fraction exponent rest : List Char} (hd : IsDigits digits)
    (hf : IsFraction fraction) (he : IsExponent exponent) (hr : StopsAt isNumberChar rest) :
    unsignedPart (digits ++ (fraction ++ (exponent ++ rest))) =
      digits ++ (fraction ++ exponent) := by
  have hbehind := he.stopsAt_append hr
  unfold unsignedPart
  dsimp only
  rw [digitsPart_append hd (hf.stopsAt_append hbehind), if_neg hd.1, List.drop_left,
    fractionPart_append hf hbehind, ← List.append_assoc digits fraction, List.drop_left,
    exponentPart_append he hr, List.append_assoc]

/-- **A number is taken whole** if the rest cannot go on with it. -/
theorem numberPart_append {cs rest : List Char} (h : IsNumber cs) (hr : StopsAt isNumberChar rest) :
    numberPart (cs ++ rest) = cs := by
  obtain ⟨minus, digits, fraction, exponent, hm, hd, hf, he, rfl⟩ := h
  have hu := unsignedPart_append hd hf he hr
  have hne : digits ++ (fraction ++ exponent) ≠ [] := List.append_ne_nil_of_left_ne_nil hd.1 _
  simp only [List.append_assoc]
  rcases hm with rfl | rfl
  · rw [List.nil_append, List.nil_append]
    unfold numberPart
    split
    · next h =>
      -- A digit stands where the minus would.
      obtain ⟨d, ds, rfl⟩ := List.exists_cons_of_ne_nil hd.1
      cases List.head_eq_of_cons_eq h
      exact absurd (hd.2 _ List.mem_cons_self) (by decide)
    · exact hu
  · rw [List.singleton_append, List.singleton_append, numberPart, hu, if_neg hne]

theorem isNumber_iff {cs : List Char} : IsNumber cs ↔ cs ≠ [] ∧ numberPart cs = cs := by
  constructor
  · intro h
    obtain ⟨c, cs', rfl, -⟩ := h.exists_cons
    have hpart := numberPart_append h (stopsAt_nil _)
    rw [List.append_nil] at hpart
    exact ⟨List.cons_ne_nil c cs', hpart⟩
  · rintro ⟨hne, hpart⟩
    rw [← hpart] at hne ⊢
    exact isNumber_numberPart hne

instance (cs : List Char) : Decidable (IsNumber cs) :=
  decidable_of_iff _ isNumber_iff.symm

end EntityForge
