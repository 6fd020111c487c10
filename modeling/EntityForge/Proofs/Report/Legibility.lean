import EntityForge.Report.Document
import EntityForge.Proofs.Token.Spelling

/-! # Written documents are legible

Both written forms of a document have the same parts and differ only in what stands between them, so
they are treated at once. A document can be read off the start of a text: its first character names
its kind, a text ends at the first quote that is not escaped, a list or record at its closing
bracket, and a number where the digits end. The last is why something behind a document must not
begin with a digit.

* `Document.Legible`: what is written for a value is told apart from anything written in its place.
* `Document.quoteChars_inj`: quoted texts are told apart, whatever characters they have.
* `Document.Spacing`: what stands between the parts of a document.
  `Document.Spacing.enclosed_legible`: a list in brackets is told apart if its items are.
* `Document.Layout`: a way to write documents. `Document.Layout.legible`: it is legible.
* `Document.compact_injective`, `Document.indented_injective`: so neither form loses anything. -/

namespace EntityForge.Document

/-- **What is written for `a` is told apart** from what is written for any other value, if nothing
behind it could go on with a number. -/
def Legible {α : Type} (write : α → List Char) (a : α) : Prop :=
  ∀ b r r', StopsAt Char.isDigit r → StopsAt Char.isDigit r' →
    write a ++ r = write b ++ r' → a = b ∧ r = r'

/-! ### Texts -/

/-- The number below sixteen that a hexadecimal digit stands for. -/
def hexValue (c : Char) : ℕ :=
  if c.toNat < 58 then c.toNat - 48 else c.toNat - 87

/-- **The first character of a quoted text,** with what is behind it. There is none at the closing
quote. -/
def nextChar? : List Char → Option (Char × List Char)
  | '\\' :: 'n' :: r => some ('\n', r)
  | '\\' :: 'r' :: r => some ('\r', r)
  | '\\' :: 't' :: r => some ('\t', r)
  | '\\' :: 'b' :: r => some ('\x08', r)
  | '\\' :: 'f' :: r => some ('\x0c', r)
  | '\\' :: 'u' :: '0' :: '0' :: high :: low :: r =>
    some (Char.ofNat (16 * hexValue high + hexValue low), r)
  | '\\' :: c :: r => some (c, r)
  | '"' :: _ => none
  | c :: r => some (c, r)
  | [] => none

theorem hexValue_hexDigit : ∀ n < 16, hexValue (hexDigit n) = n := by decide

theorem nextChar?_quoteChar (c : Char) (r : List Char) :
    nextChar? (quoteChar c ++ r) = some (c, r) := by
  unfold quoteChar
  split_ifs with hquote hslash hnewline hreturn htab hback hfeed hcontrol
  · rw [hquote]; rfl
  · rw [hslash]; rfl
  · rw [hnewline]; rfl
  · rw [hreturn]; rfl
  · rw [htab]; rfl
  · rw [hback]; rfl
  · rw [hfeed]; rfl
  · have hhigh := hexValue_hexDigit (c.toNat / 16) (by omega)
    have hlow := hexValue_hexDigit (c.toNat % 16) (by omega)
    have hsum : 16 * (c.toNat / 16) + c.toNat % 16 = c.toNat := by omega
    simp [nextChar?, hhigh, hlow, hsum]
  · simp [nextChar?, hslash]

/-- **Quoted texts are told apart** by what stands before the closing quote. -/
theorem quoteChars_inj : ∀ {s t r r' : List Char},
    s.flatMap quoteChar ++ '"' :: r = t.flatMap quoteChar ++ '"' :: r' → s = t ∧ r = r'
  | [], [], r, r', h => by simpa using h
  | [], d :: t, r, r', h => by
    have hnext := congrArg nextChar? h
    rw [List.flatMap_cons, List.append_assoc, nextChar?_quoteChar] at hnext
    cases hnext
  | c :: s, [], r, r', h => by
    have hnext := congrArg nextChar? h
    rw [List.flatMap_cons, List.append_assoc, nextChar?_quoteChar] at hnext
    cases hnext
  | c :: s, d :: t, r, r', h => by
    have hnext := congrArg nextChar? h
    simp only [List.flatMap_cons, List.append_assoc, nextChar?_quoteChar, Option.some.injEq,
      Prod.mk.injEq] at hnext
    obtain ⟨rfl, hrest⟩ := hnext
    obtain ⟨rfl, rfl⟩ := quoteChars_inj hrest
    exact ⟨rfl, rfl⟩

theorem toList_quote (s : String) :
    (quote s).toList = '"' :: (s.toList.flatMap quoteChar ++ ['"']) := by
  simp [quote]

theorem quote_inj {s t : String} {r r' : List Char}
    (h : (quote s).toList ++ r = (quote t).toList ++ r') : s = t ∧ r = r' := by
  rw [toList_quote, toList_quote] at h
  simp only [List.cons_append, List.append_assoc, List.nil_append, List.cons_inj_right] at h
  obtain ⟨hchars, hrest⟩ := quoteChars_inj h
  exact ⟨String.toList_inj.1 hchars, hrest⟩

/-! ### Truth values and numbers -/

theorem truth_inj {b b' : Bool} {r r' : List Char}
    (h : (truth b).toList ++ r = (truth b').toList ++ r') : b = b' ∧ r = r' := by
  rcases b with _ | _ <;> rcases b' with _ | _
  · exact ⟨rfl, List.append_cancel_left h⟩
  · simp [truth] at h
  · simp [truth] at h
  · exact ⟨rfl, List.append_cancel_left h⟩

/-- **Numbers are told apart** by the digits up to where they end. -/
theorem legible_toString (n : ℕ) : Legible (fun n : ℕ => (toString n).toList) n := by
  intro m r r' hr hr' h
  have hdigits : (toString n).toList = (toString m).toList := by
    calc (toString n).toList
      _ = digitsPart ((toString n).toList ++ r) := (digitsPart_append (isDigits_toString n) hr).symm
      _ = digitsPart ((toString m).toList ++ r') := congrArg digitsPart h
      _ = (toString m).toList := digitsPart_append (isDigits_toString m) hr'
  obtain rfl := eq_of_toString_eq hdigits
  exact ⟨rfl, List.append_cancel_left h⟩

/-! ### Lists in brackets -/

/-- A character that closes brackets: it is not taken for a blank, a comma or a digit. -/
structure Closes (c : Char) : Prop where
  ne_space : c ≠ ' '
  ne_newline : c ≠ '\n'
  ne_comma : c ≠ ','
  not_digit : c.isDigit = false

theorem closes_list : Closes ']' :=
  ⟨by decide, by decide, by decide, rfl⟩

theorem closes_record : Closes '\x7d' :=
  ⟨by decide, by decide, by decide, rfl⟩

/-- **What stands between the parts of a document:** blanks in front of a part or closing bracket at
some level, and the colon behind the name of a field. -/
structure Spacing where
  gap : ℕ → List Char
  colon : List Char
  blank_gap : ∀ level, ∀ c ∈ gap level, c = ' ' ∨ c = '\n'

namespace Spacing
variable (s : Spacing)

/-- What is written behind the first part in brackets. -/
def behind (closing : Char) (level : ℕ) (parts : List (List Char)) : List Char :=
  (parts.flatMap fun part => ',' :: (s.gap (level + 1) ++ part)) ++ (s.gap level ++ [closing])

/-- **Parts in brackets,** with commas between them. -/
def enclosed (opening closing : Char) (level : ℕ) : List (List Char) → List Char
  | [] => [opening, closing]
  | part :: parts => opening :: (s.gap (level + 1) ++ (part ++ s.behind closing level parts))

/-- A field of a record, its name in front of its value. -/
def field (write : Document → List Char) (f : String × Document) : List Char :=
  (quote f.1).toList ++ (s.colon ++ write f.2)

theorem behind_nil_append (closing : Char) (level : ℕ) (r : List Char) :
    s.behind closing level [] ++ r = s.gap level ++ closing :: r := by
  simp [behind]

theorem behind_cons_append (closing : Char) (level : ℕ) (part : List Char)
    (parts : List (List Char)) (r : List Char) : s.behind closing level (part :: parts) ++ r =
      ',' :: (s.gap (level + 1) ++ (part ++ (s.behind closing level parts ++ r))) := by
  simp [behind]

theorem enclosed_cons_append (opening closing : Char) (level : ℕ) (part : List Char)
    (parts : List (List Char)) (r : List Char) :
    s.enclosed opening closing level (part :: parts) ++ r =
      opening :: (s.gap (level + 1) ++ (part ++ (s.behind closing level parts ++ r))) := by
  simp [enclosed]

theorem exists_enclosed_eq_cons (opening closing : Char) (level : ℕ) (parts : List (List Char)) :
    ∃ cs, s.enclosed opening closing level parts = opening :: cs := by
  rcases parts with _ | ⟨part, parts⟩
  · exact ⟨_, rfl⟩
  · exact ⟨_, rfl⟩

theorem exists_gap_append_cons (level : ℕ) (c : Char) (cs : List Char) :
    ∃ d ds, s.gap level ++ c :: cs = d :: ds ∧ (d = ' ' ∨ d = '\n' ∨ d = c) := by
  rcases hgap : s.gap level with _ | ⟨d, ds⟩
  · exact ⟨c, cs, rfl, Or.inr (Or.inr rfl)⟩
  · have hblank : d = ' ' ∨ d = '\n' := s.blank_gap level d (by simp [hgap])
    exact ⟨d, ds ++ c :: cs, rfl, hblank.imp_right Or.inl⟩

section Items
variable {α : Type} {write : α → List Char} {closing : Char} (hclosing : Closes closing)
include hclosing

theorem stopsAt_behind (level : ℕ) (parts : List (List Char)) (r : List Char) :
    StopsAt Char.isDigit (s.behind closing level parts ++ r) := by
  rcases parts with _ | ⟨part, parts⟩
  · obtain ⟨d, ds, hd, hchar⟩ := s.exists_gap_append_cons level closing r
    rw [s.behind_nil_append, hd, stopsAt_cons]
    rcases hchar with rfl | rfl | rfl
    · rfl
    · rfl
    · exact hclosing.not_digit
  · exact stopsAt_cons.2 rfl

theorem behind_nil_ne (level : ℕ) (r cs : List Char) :
    s.behind closing level [] ++ r ≠ ',' :: cs := by
  intro h
  obtain ⟨d, ds, hd, hchar⟩ := s.exists_gap_append_cons level closing r
  rw [s.behind_nil_append, hd] at h
  obtain ⟨hcomma, -⟩ := List.cons.inj h
  rcases hchar with rfl | rfl | rfl
  · exact absurd hcomma (by decide)
  · exact absurd hcomma (by decide)
  · exact hclosing.ne_comma hcomma

theorem behind_inj (level : ℕ) : ∀ {as bs : List α} {r r' : List Char},
    (∀ a ∈ as, Legible write a) →
      s.behind closing level (as.map write) ++ r = s.behind closing level (bs.map write) ++ r' →
      as = bs ∧ r = r'
  | [], [], r, r', _, h => ⟨rfl, List.append_cancel_left h⟩
  | [], b :: bs, r, r', _, h => absurd h (s.behind_nil_ne hclosing _ _ _)
  | a :: as, [], r, r', _, h => absurd h.symm (s.behind_nil_ne hclosing _ _ _)
  | a :: as, b :: bs, r, r', hlegible, h => by
    obtain ⟨ha, has⟩ := List.forall_mem_cons.1 hlegible
    rw [List.map_cons, List.map_cons, s.behind_cons_append, s.behind_cons_append,
      List.cons_inj_right, List.append_cancel_left_eq] at h
    obtain ⟨rfl, hrest⟩ := ha b _ _ (s.stopsAt_behind hclosing _ _ _)
      (s.stopsAt_behind hclosing _ _ _) h
    obtain ⟨rfl, rfl⟩ := behind_inj level has hrest
    exact ⟨rfl, rfl⟩

/-- **A list in brackets is told apart** if each of its items is, and none begins with the closing
bracket. -/
theorem enclosed_legible (hstart : ∀ a, ∃ c cs, write a = c :: cs ∧ c ≠ closing) (opening : Char)
    (level : ℕ) {as : List α} (hlegible : ∀ a ∈ as, Legible write a) :
    Legible (fun as => s.enclosed opening closing level (as.map write)) as := by
  -- An empty list goes on with its closing bracket, any other with a blank or an item.
  have hempty : ∀ (a : α) (cs r : List Char),
      s.gap (level + 1) ++ (write a ++ cs) ≠ closing :: r := by
    intro a cs r h
    obtain ⟨c, item, ha, hc⟩ := hstart a
    obtain ⟨d, ds, hd, hchar⟩ := s.exists_gap_append_cons (level + 1) c (item ++ cs)
    rw [ha, List.cons_append, hd] at h
    obtain ⟨rfl, -⟩ := List.cons.inj h
    rcases hchar with hblank | hblank | hitem
    · exact hclosing.ne_space hblank
    · exact hclosing.ne_newline hblank
    · exact hc hitem.symm
  intro bs r r' hr hr' h
  dsimp only at h
  rcases as with _ | ⟨a, as⟩ <;> rcases bs with _ | ⟨b, bs⟩
  · exact ⟨rfl, List.append_cancel_left h⟩
  · rw [List.map_cons, s.enclosed_cons_append] at h
    exact absurd (List.cons.inj h).2.symm (hempty _ _ _)
  · rw [List.map_cons, s.enclosed_cons_append] at h
    exact absurd (List.cons.inj h).2 (hempty _ _ _)
  · obtain ⟨ha, has⟩ := List.forall_mem_cons.1 hlegible
    rw [List.map_cons, List.map_cons, s.enclosed_cons_append, s.enclosed_cons_append,
      List.cons_inj_right, List.append_cancel_left_eq] at h
    obtain ⟨rfl, hrest⟩ := ha b _ _ (s.stopsAt_behind hclosing _ _ _)
      (s.stopsAt_behind hclosing _ _ _) h
    obtain ⟨rfl, rfl⟩ := s.behind_inj hclosing level has hrest
    exact ⟨rfl, rfl⟩

end Items

theorem exists_field_eq_cons (write : Document → List Char) (f : String × Document) :
    ∃ cs, s.field write f = '"' :: cs := by
  rw [field, toList_quote]
  exact ⟨_, rfl⟩

theorem field_legible {write : Document → List Char} {f : String × Document}
    (hvalue : Legible write f.2) : Legible (s.field write) f := by
  obtain ⟨name, d⟩ := f
  rintro ⟨name', d'⟩ r r' hr hr' h
  simp only [field, List.append_assoc] at h
  obtain ⟨rfl, hrest⟩ := quote_inj h
  obtain ⟨rfl, rfl⟩ := hvalue d' r r' hr hr' (List.append_cancel_left hrest)
  exact ⟨rfl, rfl⟩

end Spacing

/-! ### Documents -/

/-- **A way to write documents,** at any level of indentation. Only the spacing is free. -/
structure Layout extends Spacing where
  write : ℕ → Document → List Char
  write_null : ∀ n, write n null = "null".toList
  write_bool : ∀ n b, write n (bool b) = (truth b).toList
  write_number : ∀ n k, write n (number k) = (toString k).toList
  write_string : ∀ n s, write n (string s) = (quote s).toList
  write_list : ∀ n items,
    write n (list items) = toSpacing.enclosed '[' ']' n (items.map (write (n + 1)))
  write_record : ∀ n fields, write n (record fields) =
    toSpacing.enclosed '\x7b' '\x7d' n (fields.map (toSpacing.field (write (n + 1))))

/-- Induction over documents, with the hypothesis for every item of a list and every field of a
record. -/
@[elab_as_elim, induction_eliminator]
theorem induct {P : Document → Prop} (null : P .null) (bool : ∀ b, P (.bool b))
    (number : ∀ n, P (.number n)) (string : ∀ s, P (.string s))
    (list : ∀ items, (∀ d ∈ items, P d) → P (.list items))
    (record : ∀ fields, (∀ f ∈ fields, P f.2) → P (.record fields)) : ∀ d, P d
  | .null => null
  | .bool b => bool b
  | .number n => number n
  | .string s => string s
  | .list items => list items fun d _ => induct null bool number string list record d
  | .record fields => record fields fun f _ => induct null bool number string list record f.2
termination_by d => sizeOf d
decreasing_by
  · have hlt := List.sizeOf_lt_of_mem ‹d ∈ items›
    simp
    omega
  · have hlt := List.sizeOf_lt_of_mem ‹f ∈ fields›
    rw [Prod.mk.sizeOf_spec] at hlt
    simp
    omega

/-- The kinds of documents. -/
inductive Kind where
  | null
  | bool
  | number
  | string
  | list
  | record

/-- The kind of a document. -/
def kind : Document → Kind
  | null => .null
  | bool _ => .bool
  | number _ => .number
  | string _ => .string
  | list _ => .list
  | record _ => .record

/-- The kind of document that begins with a character. -/
def Kind.ofStart? (c : Char) : Option Kind :=
  if c.isDigit then some .number
  else if c = 'n' then some .null
  else if c = 't' ∨ c = 'f' then some .bool
  else if c = '"' then some .string
  else if c = '[' then some .list
  else if c = '\x7b' then some .record
  else none

namespace Layout
variable (l : Layout)

/-- **The first character names the kind.** -/
theorem exists_write_eq_cons (n : ℕ) (d : Document) :
    ∃ c cs, l.write n d = c :: cs ∧ Kind.ofStart? c = some d.kind := by
  cases d with
  | null => exact ⟨_, _, l.write_null n, rfl⟩
  | bool b =>
    cases b
    · exact ⟨_, _, l.write_bool n false, rfl⟩
    · exact ⟨_, _, l.write_bool n true, rfl⟩
  | number k =>
    obtain ⟨hne, hall⟩ := isDigits_toString k
    obtain ⟨c, cs, hcons⟩ := List.exists_cons_of_ne_nil hne
    have hdigit : c.isDigit = true := hall c (hcons ▸ List.mem_cons_self)
    exact ⟨c, cs, (l.write_number n k).trans hcons, if_pos hdigit⟩
  | string s => exact ⟨_, _, (l.write_string n s).trans (toList_quote s), rfl⟩
  | list items =>
    obtain ⟨cs, hcs⟩ := l.exists_enclosed_eq_cons '[' ']' n (items.map (l.write (n + 1)))
    exact ⟨_, cs, (l.write_list n items).trans hcs, rfl⟩
  | record fields =>
    obtain ⟨cs, hcs⟩ :=
      l.exists_enclosed_eq_cons '\x7b' '\x7d' n (fields.map (l.field (l.write (n + 1))))
    exact ⟨_, cs, (l.write_record n fields).trans hcs, rfl⟩

theorem kind_eq {n : ℕ} {d e : Document} {r r' : List Char}
    (h : l.write n d ++ r = l.write n e ++ r') : d.kind = e.kind := by
  obtain ⟨c, cs, hd, hkind⟩ := l.exists_write_eq_cons n d
  obtain ⟨c', cs', he, hkind'⟩ := l.exists_write_eq_cons n e
  rw [hd, he] at h
  obtain ⟨rfl, -⟩ := List.cons.inj h
  exact Option.some.inj (hkind.symm.trans hkind')

/-- **Documents are legible** in any layout: each is told apart from any other. -/
theorem legible (d : Document) : ∀ n, Legible (l.write n) d := by
  -- The kind decides what the other document is; its parts are then compared.
  induction d with
  | null =>
    intro n e r r' hr hr' h
    have hkind := l.kind_eq h
    cases e with
    | null => exact ⟨rfl, List.append_cancel_left h⟩
    | _ => cases hkind
  | bool b =>
    intro n e r r' hr hr' h
    have hkind := l.kind_eq h
    cases e with
    | bool b' =>
      rw [l.write_bool, l.write_bool] at h
      obtain ⟨rfl, rfl⟩ := truth_inj h
      exact ⟨rfl, rfl⟩
    | _ => cases hkind
  | number k =>
    intro n e r r' hr hr' h
    have hkind := l.kind_eq h
    cases e with
    | number k' =>
      rw [l.write_number, l.write_number] at h
      obtain ⟨rfl, rfl⟩ := legible_toString k k' r r' hr hr' h
      exact ⟨rfl, rfl⟩
    | _ => cases hkind
  | string s =>
    intro n e r r' hr hr' h
    have hkind := l.kind_eq h
    cases e with
    | string s' =>
      rw [l.write_string, l.write_string] at h
      obtain ⟨rfl, rfl⟩ := quote_inj h
      exact ⟨rfl, rfl⟩
    | _ => cases hkind
  | list items ih =>
    intro n e r r' hr hr' h
    have hkind := l.kind_eq h
    cases e with
    | list items' =>
      rw [l.write_list, l.write_list] at h
      have hstart : ∀ d, ∃ c cs, l.write (n + 1) d = c :: cs ∧ c ≠ ']' := by
        intro d
        obtain ⟨c, cs, hd, hkind⟩ := l.exists_write_eq_cons (n + 1) d
        refine ⟨c, cs, hd, ?_⟩
        rintro rfl
        cases hkind
      obtain ⟨rfl, rfl⟩ := l.enclosed_legible closes_list hstart '[' n
        (fun d hd => ih d hd (n + 1)) items' r r' hr hr' h
      exact ⟨rfl, rfl⟩
    | _ => cases hkind
  | record fields ih =>
    intro n e r r' hr hr' h
    have hkind := l.kind_eq h
    cases e with
    | record fields' =>
      rw [l.write_record, l.write_record] at h
      have hstart : ∀ f, ∃ c cs, l.field (l.write (n + 1)) f = c :: cs ∧ c ≠ '\x7d' := by
        intro f
        obtain ⟨cs, hcs⟩ := l.exists_field_eq_cons (l.write (n + 1)) f
        exact ⟨_, cs, hcs, by decide⟩
      obtain ⟨rfl, rfl⟩ := l.enclosed_legible closes_record hstart '\x7b' n
        (fun f hf => l.field_legible (ih f hf (n + 1))) fields' r r' hr hr' h
      exact ⟨rfl, rfl⟩
    | _ => cases hkind

theorem write_injective (n : ℕ) : Function.Injective (l.write n) := by
  intro d e h
  exact (l.legible d n e [] [] (stopsAt_nil _) (stopsAt_nil _) (by rw [h])).1

end Layout

/-! ### The two forms -/

theorem compactItems_eq : ∀ items, compactItems items = items.map compact
  | [] => rfl
  | d :: items => by rw [compactItems, compactItems_eq items, List.map_cons]

theorem compactFields_eq : ∀ fields,
    compactFields fields = fields.map fun f => quote f.1 ++ ":" ++ compact f.2
  | [] => rfl
  | (name, d) :: fields => by rw [compactFields, compactFields_eq fields, List.map_cons]

theorem indentedItems_eq (level : ℕ) : ∀ items,
    indentedItems level items = items.map (indentedAt (level + 1))
  | [] => rfl
  | d :: items => by rw [indentedItems, indentedItems_eq level items, List.map_cons]

theorem indentedFields_eq (level : ℕ) : ∀ fields, indentedFields level fields =
    fields.map fun f => quote f.1 ++ ": " ++ indentedAt (level + 1) f.2
  | [] => rfl
  | (name, d) :: fields => by rw [indentedFields, indentedFields_eq level fields, List.map_cons]

theorem toList_intercalate_cons (sep s : String) (l : List String) :
    (sep.intercalate (s :: l)).toList = s.toList ++ l.flatMap fun t => sep.toList ++ t.toList := by
  induction l generalizing s with
  | nil => simp
  | cons t l ih => simp [String.intercalate_cons_cons, ih]

/-- The spacing of a document in one line. -/
def Spacing.tight : Spacing where
  gap _ := []
  colon := [':']
  blank_gap _ _ h := by cases h

/-- The spacing of a document on several lines. -/
def Spacing.lines : Spacing where
  gap level := '\n' :: List.replicate (2 * level) ' '
  colon := [':', ' ']
  blank_gap level c h := by
    rcases List.mem_cons.1 h with rfl | h
    · exact Or.inr rfl
    · exact Or.inl (List.eq_of_mem_replicate h)

theorem toList_commaSeparated (opening closing : Char) (level : ℕ) (parts : List String) :
    opening :: ((",".intercalate parts).toList ++ [closing]) =
      Spacing.tight.enclosed opening closing level (parts.map String.toList) := by
  rcases parts with _ | ⟨part, parts⟩
  · rfl
  · rw [toList_intercalate_cons]
    simp [Spacing.enclosed, Spacing.behind, Spacing.tight, List.flatMap_map]

theorem toList_block (opening closing : Char) (level : ℕ) (parts : List String) :
    (block opening.toString closing.toString level parts).toList =
      Spacing.lines.enclosed opening closing level (parts.map String.toList) := by
  rcases parts with _ | ⟨part, parts⟩
  · simp [block, Spacing.enclosed]
  · rw [block, if_neg (List.cons_ne_nil _ _), List.map_cons]
    simp only [String.toList_append, toList_intercalate_cons]
    simp [Spacing.enclosed, Spacing.behind, Spacing.lines, List.flatMap_map, indentation]

/-- **The layout in one line.** -/
def Layout.compact : Layout where
  toSpacing := .tight
  write _ d := d.compact.toList
  write_null _ := rfl
  write_bool _ _ := rfl
  write_number _ _ := rfl
  write_string _ _ := rfl
  write_list n items := by
    rw [Document.compact, compactItems_eq, String.toList_append, String.toList_append]
    refine (toList_commaSeparated '[' ']' n _).trans ?_
    rw [List.map_map]
    rfl
  write_record n fields := by
    have hfield : ∀ f ∈ fields, (quote f.1 ++ ":" ++ f.2.compact).toList =
        Spacing.tight.field (fun d => d.compact.toList) f := by
      intro f _
      simp [Spacing.field, Spacing.tight]
    rw [Document.compact, compactFields_eq, String.toList_append, String.toList_append]
    refine (toList_commaSeparated '\x7b' '\x7d' n _).trans ?_
    rw [List.map_map]
    exact congrArg _ (List.map_congr_left hfield)

/-- **The layout on several lines.** -/
def Layout.indented : Layout where
  toSpacing := .lines
  write n d := (d.indentedAt n).toList
  write_null _ := rfl
  write_bool _ _ := rfl
  write_number _ _ := rfl
  write_string _ _ := rfl
  write_list n items := by
    rw [indentedAt, indentedItems_eq]
    refine (toList_block '[' ']' n _).trans ?_
    rw [List.map_map]
    rfl
  write_record n fields := by
    have hfield : ∀ f ∈ fields, (quote f.1 ++ ": " ++ f.2.indentedAt (n + 1)).toList =
        Spacing.lines.field (fun d => (d.indentedAt (n + 1)).toList) f := by
      intro f _
      simp [Spacing.field, Spacing.lines]
    rw [indentedAt, indentedFields_eq]
    refine (toList_block '\x7b' '\x7d' n _).trans ?_
    rw [List.map_map]
    exact congrArg _ (List.map_congr_left hfield)

theorem compact_injective : Function.Injective compact := by
  intro d e h
  exact Layout.compact.write_injective 0 (congrArg String.toList h)

theorem indented_injective : Function.Injective indented := by
  intro d e h
  exact Layout.indented.write_injective 0 (congrArg String.toList h)

end EntityForge.Document
