import EntityForge.Text.Position
import EntityForge.Proofs.Token.Tiling
import Mathlib.Data.Prod.Lex

/-! # Positions as addresses

A position is read line first, and going on in a text always leads to a later one: a line feed to
the next line, any other character to the next column. So the places between the characters of a
text have different positions, in the same order.

* `Position.address`: a position in the order of reading.
* `Position.after_concat`: one more character. `Position.address_lt`: more text.
* `IsBoundary`: a place between characters.
* `takeBytes_append`: what lies before an offset.
* `Position.ofOffset_boundary`, `Position.ofOffset_inside`, `Position.ofOffset_end`: the position of
  an offset by where it lies.
* `Position.ofOffset_lt`, `Position.eq_of_ofOffset_eq`: positions of boundaries. -/

namespace EntityForge

/-! ### The order of positions -/

namespace Position

/-- **A position in the order of reading:** first the line, then the column. -/
def address (p : Position) : ℕ ×ₗ ℕ :=
  toLex (p.line, p.column)

theorem address_lt_iff {p q : Position} :
    p.address < q.address ↔ p.line < q.line ∨ p.line = q.line ∧ p.column < q.column :=
  Prod.Lex.toLex_lt_toLex

theorem address_injective : Function.Injective address := by
  rintro ⟨l, c⟩ ⟨l', c'⟩ h
  obtain ⟨rfl, rfl⟩ := Prod.mk.inj (toLex.injective h)
  rfl

/-- The position behind one more character: a line feed starts a line. -/
def advance (p : Position) (c : Char) : Position :=
  if c = '\n' then ⟨p.line + 1, 1⟩ else ⟨p.line, p.column + 1⟩

theorem address_lt_advance (p : Position) (c : Char) : p.address < (p.advance c).address := by
  rw [address_lt_iff, advance]
  split
  · exact .inl (Nat.lt_succ_self _)
  · exact .inr ⟨rfl, Nat.lt_succ_self _⟩

theorem after_concat (before : List Char) (c : Char) :
    after (before ++ [c]) = (after before).advance c := by
  by_cases hc : c = '\n'
  · simp [after, advance, hc, Nat.add_comm, Nat.add_left_comm]
  · simp [after, advance, hc, Nat.add_comm]

theorem after_append (before more : List Char) :
    after (before ++ more) = more.foldl advance (after before) := by
  induction more generalizing before with
  | nil => simp
  | cons c more ih => rw [List.append_cons, ih, after_concat, List.foldl_cons]

theorem address_le_foldl (p : Position) (more : List Char) :
    p.address ≤ (more.foldl advance p).address := by
  induction more generalizing p with
  | nil => exact le_rfl
  | cons c more ih => exact (address_lt_advance p c).le.trans (ih _)

theorem address_lt (before : List Char) {more : List Char} (h : more ≠ []) :
    (after before).address < (after (before ++ more)).address := by
  obtain ⟨c, more, rfl⟩ := List.exists_cons_of_ne_nil h
  rw [after_append]
  exact lt_of_lt_of_le (address_lt_advance _ c) (address_le_foldl _ more)

/-- **What line and column count:** line feeds, and the characters behind the last of them. -/
theorem after_counts (before : List Char) : (after before).line = 1 + before.count '\n' ∧
    ∃ lines current, before = lines ++ current ∧ (lines = [] ∨ lines.getLast? = some '\n') ∧
      '\n' ∉ current ∧ (after before).column = 1 + current.length := by
  refine ⟨rfl, (before.reverse.dropWhile (· ≠ '\n')).reverse,
    (before.reverse.takeWhile (· ≠ '\n')).reverse, ?_, ?_, ?_, ?_⟩
  · rw [← List.reverse_append, List.takeWhile_append_dropWhile, List.reverse_reverse]
  · rw [List.getLast?_reverse, List.reverse_eq_nil_iff]
    rcases hrest : before.reverse.dropWhile (· ≠ '\n') with _ | ⟨c, rest⟩
    · exact .inl rfl
    · have hstop := List.head?_dropWhile_not (fun c => decide (c ≠ '\n')) before.reverse
      rw [hrest] at hstop
      exact .inr (by simpa using hstop)
  · intro hmem
    have hpass := List.mem_takeWhile_imp (List.mem_reverse.1 hmem)
    simp at hpass
  · rw [List.length_reverse]
    rfl

end Position

/-! ### Places in a text -/

/-- **A place between characters,** counted in bytes. -/
def IsBoundary (cs : List Char) (offset : ℕ) : Prop :=
  ∃ before after, cs = before ++ after ∧ offset = byteLength before

/-- **What lies before an offset.** -/
theorem takeBytes_append {before : List Char} {offset : ℕ} (h : byteLength before ≤ offset)
    (rest : List Char) :
    takeBytes offset (before ++ rest) = before ++ takeBytes (offset - byteLength before) rest := by
  induction before generalizing offset with
  | nil => rfl
  | cons c before ih =>
    rw [byteLength_cons] at h
    have hfits : c.utf8Size ≤ offset := by omega
    rw [List.cons_append, takeBytes, if_pos hfits, ih (by omega), byteLength_cons, Nat.sub_sub,
      List.cons_append]

theorem takeBytes_of_lt {c : Char} {offset : ℕ} (h : offset < c.utf8Size) (cs : List Char) :
    takeBytes offset (c :: cs) = [] := by
  rw [takeBytes, if_neg (by omega)]

namespace Position

variable {source : String} {before after : List Char}

/-- **An offset beyond the end** counts as the end. -/
theorem ofOffset_end {offset : ℕ} (h : byteLength source.toList ≤ offset) :
    ofOffset source offset = Position.after source.toList := by
  have htake := takeBytes_append h []
  rw [List.append_nil, takeBytes, List.append_nil] at htake
  rw [ofOffset, htake]

/-- **An offset inside a character** counts as its first byte. -/
theorem ofOffset_inside {c : Char} (hsource : source.toList = before ++ c :: after) {offset : ℕ}
    (hle : byteLength before ≤ offset) (hlt : offset < byteLength before + c.utf8Size) :
    ofOffset source offset = Position.after before := by
  rw [ofOffset, hsource, takeBytes_append hle, takeBytes_of_lt (by omega), List.append_nil]

/-- **The position of a boundary** is that behind the text before it. -/
theorem ofOffset_boundary (hsource : source.toList = before ++ after) :
    ofOffset source (byteLength before) = Position.after before := by
  rcases after with _ | ⟨c, after⟩
  · rw [List.append_nil] at hsource
    rw [← hsource, ofOffset_end le_rfl]
  · have hpos := c.utf8Size_pos
    exact ofOffset_inside hsource le_rfl (by omega)

/-- **Positions of boundaries are in the order of the boundaries.** -/
theorem ofOffset_lt {a b : ℕ} (ha : IsBoundary source.toList a) (hb : IsBoundary source.toList b)
    (h : a < b) : (ofOffset source a).address < (ofOffset source b).address := by
  obtain ⟨before, rest, hsource, rfl⟩ := ha
  obtain ⟨before', rest', hsource', rfl⟩ := hb
  obtain ⟨more, rfl, -⟩ := exists_append_of_byteLength_le (hsource.symm.trans hsource') h.le
  have hmore : more ≠ [] := by
    rintro rfl
    rw [List.append_nil] at h
    exact lt_irrefl _ h
  rw [ofOffset_boundary hsource, ofOffset_boundary hsource']
  exact address_lt before hmore

/-- **A position belongs to one boundary.** -/
theorem eq_of_ofOffset_eq {a b : ℕ} (ha : IsBoundary source.toList a)
    (hb : IsBoundary source.toList b) (h : ofOffset source a = ofOffset source b) : a = b := by
  rcases lt_trichotomy a b with hlt | heq | hlt
  · exact absurd (ofOffset_lt ha hb hlt) (by rw [h]; exact lt_irrefl _)
  · exact heq
  · exact absurd (ofOffset_lt hb ha hlt) (by rw [h]; exact lt_irrefl _)

end Position

end EntityForge
