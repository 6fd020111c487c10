import EntityForge.Excerpt
import EntityForge.Proofs.Text.Positions

/-! # Positions in the lines of an excerpt

The lines of an excerpt end behind more characters than the line feed, and the offset they are
looked up with counts characters. The position named above an excerpt can be counted character by
character all the same, if one looks at what follows: a line ends behind a line end that stands
neither at the end of the text nor in front of its line feed.

* `Excerpt.walk`: the position reached by going on from one.
* `Excerpt.exists_lineAt?_locate`: looking up the line of an offset is walking there.
* `Excerpt.address_walk_lt`: going further leads to a later position.
* `Excerpt.PlainEnds`: a text whose lines end in a line feed only.
* `Excerpt.lags_advance`, `Excerpt.lags_walk`: counting line feeds comes to the same position or to
  an earlier line, and to the same one exactly in such a text. -/

namespace EntityForge.Excerpt

/-! ### Walking along a text -/

/-- Whether a line ends behind a character that another one may follow. -/
def endsLine (c : Char) (next : Option Char) : Bool :=
  isLineEnd c && next.isSome && !(c == '\r' && next == some '\n')

theorem endsLine_iff {c : Char} {next : Option Char} : endsLine c next = true ↔
    isLineEnd c = true ∧ next.isSome = true ∧ ¬ (c = '\r' ∧ next = some '\n') := by
  simp [endsLine, and_assoc, imp_iff_not_or]

/-- The position behind one more character. -/
def advance (p : Position) (c : Char) (next : Option Char) : Position :=
  if endsLine c next then ⟨p.line + 1, 1⟩ else ⟨p.line, p.column + 1⟩

/-- **The position reached from another** by so many characters of a text. -/
def walk (p : Position) : List Char → ℕ → Position
  | c :: cs, n + 1 => walk (advance p c cs.head?) cs n
  | _, _ => p

@[simp] theorem walk_zero (p : Position) (cs : List Char) : walk p cs 0 = p := by
  cases cs <;> rfl

@[simp] theorem walk_cons_succ (p : Position) (c : Char) (cs : List Char) (n : ℕ) :
    walk p (c :: cs) (n + 1) = walk (advance p c cs.head?) cs n := rfl

theorem address_lt_advance (p : Position) (c : Char) (next : Option Char) :
    p.address < (advance p c next).address := by
  rw [Position.address_lt_iff, advance]
  split
  · exact .inl (Nat.lt_succ_self _)
  · exact .inr ⟨rfl, Nat.lt_succ_self _⟩

theorem address_le_walk (p : Position) (cs : List Char) (n : ℕ) :
    p.address ≤ (walk p cs n).address := by
  induction cs generalizing p n with
  | nil => exact le_rfl
  | cons c cs ih =>
    cases n with
    | zero => exact le_rfl
    | succ n => exact (address_lt_advance p c cs.head?).le.trans (ih _ _)

/-- **Going further leads to a later position.** -/
theorem address_walk_lt {p : Position} {cs : List Char} {m n : ℕ} (hmn : m < n)
    (hn : n ≤ cs.length) : (walk p cs m).address < (walk p cs n).address := by
  induction cs generalizing p m n with
  | nil => exact absurd hn (Nat.not_le.2 (Nat.zero_lt_of_lt hmn))
  | cons c cs ih =>
    obtain ⟨n, rfl⟩ := Nat.exists_eq_succ_of_ne_zero (Nat.ne_zero_of_lt hmn)
    cases m with
    | zero => exact lt_of_lt_of_le (address_lt_advance p c cs.head?) (address_le_walk _ _ _)
    | succ m => exact ih (Nat.lt_of_succ_lt_succ hmn) (Nat.le_of_succ_le_succ hn)

theorem address_walk_le {p : Position} {cs : List Char} {m n : ℕ} (hmn : m ≤ n)
    (hn : n ≤ cs.length) : (walk p cs m).address ≤ (walk p cs n).address := by
  rcases hmn.eq_or_lt with rfl | hlt
  · exact le_rfl
  · exact (address_walk_lt hlt hn).le

/-! ### Looking a line up -/

section Lines
variable {index start offset : ℕ} {text : List Char} {rest : List (List Char)}

/-- The last of some lines that starts at an offset or before. -/
def lastBefore? (offset : ℕ) (lines : List Line) : Option Line :=
  (lines.filter (·.start ≤ offset)).getLast?

theorem le_start_of_mem_placeLines {texts : List (List Char)} {l : Line}
    (h : l ∈ placeLines index start texts) : start ≤ l.start := by
  induction texts generalizing index start with
  | nil => cases h
  | cons text rest ih =>
    rcases List.mem_cons.1 h with rfl | hrest
    · exact le_rfl
    · exact (Nat.le_add_right _ _).trans (ih hrest)

theorem lastBefore?_of_lt (hle : start ≤ offset) (hlt : offset < start + text.length) :
    lastBefore? offset (placeLines index start (text :: rest)) = some ⟨index, start, text⟩ := by
  have hlater : (placeLines (index + 1) (start + text.length) rest).filter
      (fun l => decide (l.start ≤ offset)) = [] := by
    refine List.filter_eq_nil_iff.2 fun l hl => ?_
    have := le_start_of_mem_placeLines hl
    simp only [decide_eq_true_eq]
    omega
  rw [lastBefore?, placeLines, List.filter_cons_of_pos (by simpa using hle), hlater]
  rfl

theorem lastBefore?_singleton (hle : start ≤ offset) :
    lastBefore? offset (placeLines index start [text]) = some ⟨index, start, text⟩ := by
  rw [lastBefore?, placeLines, placeLines, List.filter_cons_of_pos (by simpa using hle)]
  rfl

theorem lastBefore?_of_le (hrest : rest ≠ []) (hle : start + text.length ≤ offset) :
    lastBefore? offset (placeLines index start (text :: rest)) =
      lastBefore? offset (placeLines (index + 1) (start + text.length) rest) := by
  obtain ⟨next, later, rfl⟩ := List.exists_cons_of_ne_nil hrest
  have hstart : start ≤ offset := by omega
  rw [lastBefore?, lastBefore?, placeLines, List.filter_cons_of_pos (by simpa using hstart),
    placeLines, List.filter_cons_of_pos (by simpa using hle), List.getLast?_cons_cons]

end Lines

/-- Lines with a text put in front of the first one. -/
def withFront (front : List Char) : List (List Char) → List (List Char)
  | [] => [front]
  | text :: rest => (front ++ text) :: rest

theorem withFront_nil {texts : List (List Char)} (h : texts ≠ []) : withFront [] texts = texts := by
  obtain ⟨text, rest, rfl⟩ := List.exists_cons_of_ne_nil h
  rfl

theorem withFront_withFront (front more : List Char) (texts : List (List Char)) :
    withFront front (withFront more texts) = withFront (front ++ more) texts := by
  cases texts with
  | nil => rfl
  | cons text rest => simp [withFront]

theorem exists_splitVisual_cons (c : Char) (cs : List Char) :
    ∃ text rest, splitVisual (c :: cs) = (c :: text) :: rest := by
  rw [splitVisual.eq_def]
  split
  · next hnil => cases hnil
  · next heq =>
    cases heq
    exact ⟨_, _, rfl⟩
  · next heq =>
    cases heq
    split
    · exact ⟨_, _, rfl⟩
    · split <;> exact ⟨_, _, rfl⟩

theorem splitVisual_of_endsLine {c : Char} {cs : List Char} (h : endsLine c cs.head? = true) :
    splitVisual (c :: cs) = [c] :: splitVisual cs := by
  rw [splitVisual.eq_def]
  split
  · next hnil => cases hnil
  · next cs' heq =>
    cases heq
    simp [endsLine] at h
  · next c' cs' _ heq =>
    cases heq
    rw [if_pos (endsLine_iff.1 h).1]

/-- **Characters within a line** go to its front. -/
theorem withFront_splitVisual_cons (front : List Char) {c : Char} {cs : List Char}
    (h : endsLine c cs.head? = false) :
    withFront front (splitVisual (c :: cs)) = withFront (front ++ [c]) (splitVisual cs) := by
  rw [splitVisual.eq_def]
  split
  · next hnil => cases hnil
  · next cs' heq =>
    -- the carriage return belongs to the line that its line feed ends
    cases heq
    have hfeed : splitVisual ('\n' :: cs') = ['\n'] :: splitVisual cs' := rfl
    simp [hfeed, withFront]
  · next c' cs' hpair heq =>
    cases heq
    split
    · next hend =>
      have hnil : cs = [] := by
        rcases cs with _ | ⟨d, cs⟩
        · rfl
        · refine absurd h ?_
          have hsplit : ¬ (c = '\r' ∧ d = '\n') := by
            rintro ⟨rfl, rfl⟩
            exact hpair cs rfl rfl
          simp [endsLine, hend, hsplit]
      subst hnil
      rfl
    · rw [← withFront_withFront]
      cases splitVisual cs <;> rfl

/-- **Looking up the line of an offset is walking there,** among lines whose first one has a front
that is already behind. -/
theorem exists_lastBefore?_locate {cs : List Char} {n : ℕ} (h : n ≤ cs.length) (front : List Char)
    (index start stop : ℕ) :
    ∃ l, lastBefore? (start + front.length + n)
        (placeLines index start (withFront front (splitVisual cs))) = some l ∧
      l.locate ⟨start + front.length + n, stop⟩ =
        walk ⟨index + 1, front.length + 1⟩ cs n := by
  induction cs generalizing front index start n with
  | nil =>
    obtain rfl : n = 0 := Nat.le_zero.1 h
    refine ⟨_, lastBefore?_singleton (by omega), ?_⟩
    simp [Line.locate]
  | cons c cs ih =>
    cases n with
    | zero =>
      obtain ⟨text, rest, hlines⟩ := exists_splitVisual_cons c cs
      rw [hlines]
      refine ⟨_, lastBefore?_of_lt (by omega) ?_, ?_⟩
      · simp only [List.length_append, List.length_cons]
        omega
      · simp [Line.locate]
    | succ n =>
      have hn : n ≤ cs.length := Nat.le_of_succ_le_succ h
      have hlater : start + front.length + (n + 1) = start + (front ++ [c]).length + n := by
        simp only [List.length_append, List.length_singleton]
        omega
      rw [hlater, walk_cons_succ, advance]
      cases hends : endsLine c cs.head? with
      | false =>
        rw [withFront_splitVisual_cons front hends]
        obtain ⟨l, hlast, hlocate⟩ := ih hn (front ++ [c]) index start
        refine ⟨l, hlast, hlocate.trans ?_⟩
        simp
      | true =>
        have hne : splitVisual cs ≠ [] := by
          rcases cs with _ | ⟨d, cs⟩
          · simp [endsLine] at hends
          · obtain ⟨text, rest, hlines⟩ := exists_splitVisual_cons d cs
            rw [hlines]
            exact List.cons_ne_nil _ _
        obtain ⟨l, hlast, hlocate⟩ := ih hn [] (index + 1) (start + (front ++ [c]).length)
        rw [withFront_nil hne] at hlast
        refine ⟨l, ?_, hlocate⟩
        rw [splitVisual_of_endsLine hends, withFront,
          lastBefore?_of_le hne (Nat.le_add_right _ _)]
        exact hlast

theorem lastBefore?_sourceLines (cs : List Char) (offset : ℕ) :
    lastBefore? offset (sourceLines cs) =
      lastBefore? offset (placeLines 0 0 (withFront [] (splitVisual cs))) := by
  rcases cs with _ | ⟨c, cs⟩
  · rfl
  · obtain ⟨text, rest, hlines⟩ := exists_splitVisual_cons c cs
    rw [sourceLines, hlines]
    rfl

/-- **The line of an offset and the column in it** are found by walking from the start. -/
theorem exists_lineAt?_locate {cs : List Char} {offset : ℕ} (h : offset ≤ cs.length) (stop : ℕ) :
    ∃ l, lineAt? cs offset = some l ∧ l.locate ⟨offset, stop⟩ = walk ⟨1, 1⟩ cs offset := by
  obtain ⟨l, hlast, hlocate⟩ := exists_lastBefore?_locate h [] 0 0 stop
  rw [← lastBefore?_sourceLines] at hlast
  simp only [List.length_nil, Nat.zero_add] at hlast hlocate
  exact ⟨l, by rw [lineAt?, if_neg (Nat.not_lt.2 h)]; exact hlast, hlocate⟩

theorem lineAt?_eq_none_iff {cs : List Char} {offset : ℕ} :
    lineAt? cs offset = none ↔ cs.length < offset := by
  refine ⟨fun hnone => Nat.lt_of_not_le fun hle => ?_, fun hlt => if_pos hlt⟩
  obtain ⟨l, hsome, -⟩ := exists_lineAt?_locate hle 0
  rw [hnone] at hsome
  cases hsome

/-! ### Line feeds and other line ends -/

/-- **The lines of a text end in a line feed only,** alone or behind a carriage return; `rest` is
what follows the text. -/
def PlainEnds (text rest : List Char) : Prop :=
  ∀ front c back, text = front ++ c :: back → isLineEnd c = true →
    c = '\n' ∨ c = '\r' ∧ (back ++ rest).head? = some '\n'

theorem plainEnds_nil (rest : List Char) : PlainEnds [] rest := by
  intro front c back h
  simp at h

theorem plainEnds_cons {c : Char} {text rest : List Char} :
    PlainEnds (c :: text) rest ↔
      (isLineEnd c = true → c = '\n' ∨ c = '\r' ∧ (text ++ rest).head? = some '\n') ∧
        PlainEnds text rest := by
  constructor
  · intro h
    exact ⟨h [] c text rfl, fun front d back htext => h (c :: front) d back (by rw [htext]; rfl)⟩
  · rintro ⟨hfirst, hlater⟩ front d back htext
    cases front with
    | nil =>
      cases htext
      exact hfirst
    | cons b front =>
      cases htext
      exact hlater front d back rfl

/-- Counting line feeds has come to the same position as counting all line ends, or to an earlier
line. -/
def Lags (q p : Position) : Prop :=
  q = p ∨ q.line < p.line

theorem Lags.line_le {q p : Position} (h : Lags q p) : q.line ≤ p.line := by
  rcases h with rfl | hlt
  · exact le_rfl
  · exact hlt.le

theorem Lags.address_le {q p : Position} (h : Lags q p) : q.address ≤ p.address := by
  rcases h with rfl | hlt
  · exact le_rfl
  · exact (Position.address_lt_iff.2 (.inl hlt)).le

/-- **One more character.** Only a line end of another kind makes a difference. -/
theorem lags_advance {q p : Position} {c : Char} {next : Option Char} (h : Lags q p)
    (hnext : isLineEnd c = true → next.isSome = true) :
    Lags (q.advance c) (advance p c next) ∧ (q.advance c = advance p c next ↔
      q = p ∧ (isLineEnd c = true → c = '\n' ∨ c = '\r' ∧ next = some '\n')) := by
  rw [Position.advance, advance]
  by_cases hfeed : c = '\n'
  · have hend : isLineEnd c = true := by
      rw [hfeed]
      rfl
    have hends : endsLine c next = true :=
      endsLine_iff.2 ⟨hend, hnext hend, by simp [hfeed]⟩
    rw [if_pos hfeed, if_pos hends]
    rcases h with rfl | hlt
    · exact ⟨.inl rfl, by simp [hfeed]⟩
    · refine ⟨.inr (Nat.succ_lt_succ hlt), fun heq => ?_, fun heq => ?_⟩
      · have hline := congrArg Position.line heq
        simp only at hline
        omega
      · exact absurd (congrArg Position.line heq.1) hlt.ne
  · rw [if_neg hfeed]
    cases hends : endsLine c next with
    | true =>
      rw [if_pos rfl]
      have hline : q.line < p.line + 1 := Nat.lt_succ_of_le h.line_le
      refine ⟨.inr hline, fun heq => absurd (congrArg Position.line heq) hline.ne, fun heq => ?_⟩
      obtain ⟨hend, -, hpair⟩ := endsLine_iff.1 hends
      rcases heq.2 hend with hc | hc
      · exact absurd hc hfeed
      · exact absurd hc hpair
    | false =>
      rw [if_neg Bool.false_ne_true]
      have hplain : isLineEnd c = true → c = '\n' ∨ c = '\r' ∧ next = some '\n' := by
        intro hend
        simpa [endsLine, hend, hnext hend, hfeed] using hends
      rcases h with rfl | hlt
      · exact ⟨.inl rfl, by simp only [true_and, true_iff]; exact hplain⟩
      · refine ⟨.inr hlt, fun heq => ?_, fun heq => absurd (congrArg Position.line heq.1) hlt.ne⟩
        exact absurd (congrArg Position.line heq) hlt.ne

/-- **The whole text.** Its last character is no line end if nothing follows. -/
theorem lags_walk {text rest : List Char}
    (hlast : rest = [] → ∀ c, text.getLast? = some c → isLineEnd c = false) {q p : Position}
    (h : Lags q p) :
    Lags (text.foldl Position.advance q) (walk p (text ++ rest) text.length) ∧
      (text.foldl Position.advance q = walk p (text ++ rest) text.length ↔
        q = p ∧ PlainEnds text rest) := by
  induction text generalizing q p with
  | nil =>
    simp only [List.foldl_nil, List.nil_append, List.length_nil, walk_zero]
    exact ⟨h, fun heq => ⟨heq, plainEnds_nil rest⟩, And.left⟩
  | cons c text ih =>
    have hnext : isLineEnd c = true → (text ++ rest).head?.isSome = true := by
      intro hend
      rcases hcs : text ++ rest with _ | ⟨d, cs⟩
      · obtain ⟨rfl, rfl⟩ := List.append_eq_nil_iff.1 hcs
        rw [hlast rfl c rfl] at hend
        cases hend
      · rfl
    obtain ⟨hstep, heq⟩ := lags_advance h hnext
    have hlater : rest = [] → ∀ d, text.getLast? = some d → isLineEnd d = false := by
      intro hrest d hd
      refine hlast hrest d ?_
      rw [List.getLast?_cons, hd]
      rfl
    obtain ⟨hwalk, hiff⟩ := ih hlater hstep
    rw [List.foldl_cons, List.cons_append, List.length_cons, walk_cons_succ]
    refine ⟨hwalk, hiff.trans ?_⟩
    rw [heq, plainEnds_cons, and_assoc]

end EntityForge.Excerpt
