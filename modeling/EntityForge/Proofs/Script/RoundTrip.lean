import EntityForge.Proofs.Token.Meanings
import EntityForge.Proofs.Grammar.Literals

/-! # Literals read back

A literal is written as script text, and reading that text gives the literal back. The writer, the
scanner and the reader meet in one derivation: `Literal.tree` is the value that the writer has in
mind, its tokens are what the written text said (`meanings_render`), and the reader finds it again
because it finds every derivation.

Only numbers can be written that do not read back, since a literal may hold any text as a number.
The literals that are read never hold such a number, so they are the ones the round trip is about.

* `Literal.WellSpelled`: every number in a literal is spelled like one.
* `wellSpelled_of_parseLiteral`: what is read is well spelled.
* `parseLiteral_scan_render`: what is well spelled reads back. -/

namespace EntityForge

open Script

/-! ### The numbers of a literal -/

namespace Literal

mutual
/-- The spellings of all numbers in a literal. -/
def numbers : Literal → List String
  | .number n => [n]
  | .string _ => []
  | .boolean _ => []
  | .object fs => fieldNumbers fs
  | .array es => elementNumbers es

/-- The spellings of all numbers in fields. -/
def fieldNumbers : List (String × Literal) → List String
  | [] => []
  | (_, v) :: fs => v.numbers ++ fieldNumbers fs

/-- The spellings of all numbers in elements. -/
def elementNumbers : List Literal → List String
  | [] => []
  | v :: es => v.numbers ++ elementNumbers es
end

/-- **Every number is spelled like one.** -/
def WellSpelled (v : Literal) : Prop :=
  ∀ n ∈ v.numbers, IsNumber n.toList

instance (v : Literal) : Decidable v.WellSpelled :=
  inferInstanceAs (Decidable (∀ n ∈ v.numbers, IsNumber n.toList))

theorem mem_fieldNumbers {n : String} : ∀ {fs : List (String × Literal)},
    n ∈ fieldNumbers fs ↔ ∃ f ∈ fs, n ∈ f.2.numbers
  | [] => by simp [fieldNumbers]
  | (_, v) :: fs => by simp [fieldNumbers, mem_fieldNumbers]

theorem mem_elementNumbers {n : String} : ∀ {es : List Literal},
    n ∈ elementNumbers es ↔ ∃ e ∈ es, n ∈ e.numbers
  | [] => by simp [elementNumbers]
  | v :: es => by simp [elementNumbers, mem_elementNumbers]

theorem wellSpelled_number {n : String} : (number n).WellSpelled ↔ IsNumber n.toList := by
  simp [WellSpelled, numbers]

theorem wellSpelled_object {fs : List (String × Literal)} :
    (object fs).WellSpelled ↔ ∀ f ∈ fs, f.2.WellSpelled := by
  simp only [WellSpelled, numbers, mem_fieldNumbers]
  exact ⟨fun h f hf n hn => h n ⟨f, hf, hn⟩, fun h n ⟨f, hf, hn⟩ => h f hf n hn⟩

theorem wellSpelled_array {es : List Literal} :
    (array es).WellSpelled ↔ ∀ e ∈ es, e.WellSpelled := by
  simp only [WellSpelled, numbers, mem_elementNumbers]
  exact ⟨fun h e he n hn => h n ⟨e, he, hn⟩, fun h n ⟨e, he, hn⟩ => h e he n hn⟩

/-- Induction over literals, with the hypothesis for every field of an object and every element of
an array. -/
@[elab_as_elim, induction_eliminator]
theorem induct {P : Literal → Prop} (number : ∀ n, P (.number n)) (string : ∀ s, P (.string s))
    (boolean : ∀ b, P (.boolean b)) (object : ∀ fs, (∀ f ∈ fs, P f.2) → P (.object fs))
    (array : ∀ es, (∀ e ∈ es, P e) → P (.array es)) : ∀ v, P v
  | .number n => number n
  | .string s => string s
  | .boolean b => boolean b
  | .object fs => object fs fun f _ => induct number string boolean object array f.2
  | .array es => array es fun e _ => induct number string boolean object array e
termination_by v => sizeOf v
decreasing_by
  · have hlt := List.sizeOf_lt_of_mem ‹f ∈ fs›
    rw [Prod.mk.sizeOf_spec] at hlt
    simp
    omega
  · have hlt := List.sizeOf_lt_of_mem ‹e ∈ es›
    simp
    omega

end Literal

/-! ### What is read is well spelled -/

theorem Enclosed.mem_tokens_of_mem_items {α : Type} {f : α → List (Located Token)} {l r : Token}
    {e : Enclosed α} {a : α} {t : Located Token} (ha : a ∈ e.items) (ht : t ∈ f a) :
    t ∈ e.tokens f l r := by
  obtain ⟨left, _ | ⟨first, others, trailing⟩, right⟩ := e
  · cases ha
  · simp only [Enclosed.tokens, tokensInside_some, CommaList.tokens, List.mem_cons,
      List.mem_append]
    rcases List.mem_cons.1 ha with rfl | ha
    · exact Or.inr (Or.inl (Or.inl ht))
    · obtain ⟨p, hp, rfl⟩ := List.mem_map.1 ha
      have hmem : t ∈ tokensBehindCommas f others :=
        List.mem_flatMap.2 ⟨p, hp, List.mem_cons_of_mem _ ht⟩
      exact Or.inr (Or.inl (Or.inr (Or.inl hmem)))

theorem ValueTree.exists_token_of_mem_numbers (v : ValueTree) {n : String}
    (hn : n ∈ v.literal.numbers) : ∃ t ∈ v.tokens, t.val = .number n := by
  induction v with
  | number m =>
    obtain rfl := List.mem_singleton.1 hn
    exact ⟨_, List.mem_singleton_self _, rfl⟩
  | string s => cases hn
  | boolean b => cases hn
  | object e ih =>
    rw [literal_object, Literal.numbers, Literal.mem_fieldNumbers] at hn
    obtain ⟨f, hf, hn⟩ := hn
    obtain ⟨p, hp, rfl⟩ := List.mem_map.1 hf
    obtain ⟨t, ht, htn⟩ := ih p hp hn
    rw [tokens_object]
    have htp : t ∈ p.tokens := List.mem_cons_of_mem _ (List.mem_cons_of_mem _ ht)
    exact ⟨t, Enclosed.mem_tokens_of_mem_items hp htp, htn⟩
  | array e ih =>
    rw [literal_array, Literal.numbers, Literal.mem_elementNumbers] at hn
    obtain ⟨x, hx, hn⟩ := hn
    obtain ⟨w, hw, rfl⟩ := List.mem_map.1 hx
    obtain ⟨t, ht, htn⟩ := ih w hw hn
    rw [tokens_array]
    exact ⟨t, Enclosed.mem_tokens_of_mem_items hw ht, htn⟩

theorem parseLiteral_eq_ok_iff {ts : List (Located Token)} {v : Literal} :
    parseLiteral ts = .ok v ↔ literalReader.run ts = .ok v := by
  unfold parseLiteral
  split <;> simp_all

/-- **What is read from a text is well spelled.** -/
theorem wellSpelled_of_parseLiteral {source : String} {v : Literal}
    (h : parseLiteral (scan source).tokens = .ok v) : v.WellSpelled := by
  obtain ⟨tree, htokens, rfl⟩ := run_literalReader_eq_ok_iff.1 (parseLiteral_eq_ok_iff.1 h)
  intro n hn
  obtain ⟨t, ht, htn⟩ := tree.exists_token_of_mem_numbers hn
  rw [htokens] at ht
  exact isNumber_of_mem_scan ht htn

/-! ### The value that is written -/

/-- A list in brackets without a last comma, nowhere in particular. -/
def Enclosed.ofList {α : Type} : List α → Enclosed α
  | [] => ⟨default, none, default⟩
  | a :: as => ⟨default, some ⟨a, as.map (default, ·), none⟩, default⟩

theorem Enclosed.items_ofList {α : Type} (as : List α) : (Enclosed.ofList as).items = as := by
  rcases as with _ | ⟨a, as⟩
  · rfl
  · simp [Enclosed.ofList, Enclosed.items, CommaList.items, Function.comp_def]

/-- A property name as it is written. -/
def NameTree.written (name : String) : NameTree :=
  if isBareName name then .word ⟨name, default⟩ else .quoted ⟨name, default⟩

theorem NameTree.name_written (name : String) : (NameTree.written name).name.val = name := by
  unfold NameTree.written
  split_ifs <;> rfl

namespace Literal

mutual
/-- **The value that is written** for a literal. -/
def tree : Literal → ValueTree
  | .number n => .number ⟨n, default⟩
  | .string s => .string ⟨s, default⟩
  | .boolean b => .boolean ⟨b, default⟩
  | .object fs => .object (Enclosed.ofList (fieldTrees fs))
  | .array es => .array (Enclosed.ofList (elementTrees es))

/-- The pairs that are written for fields. -/
def fieldTrees : List (String × Literal) → List (PairTree ValueTree)
  | [] => []
  | (name, v) :: fs => ⟨.written name, default, v.tree⟩ :: fieldTrees fs

/-- The values that are written for elements. -/
def elementTrees : List Literal → List ValueTree
  | [] => []
  | v :: es => v.tree :: elementTrees es
end

/-- The pair that is written for a field. -/
def fieldTree (f : String × Literal) : PairTree ValueTree :=
  ⟨.written f.1, default, f.2.tree⟩

theorem fieldTrees_eq (fs : List (String × Literal)) : fieldTrees fs = fs.map fieldTree := by
  induction fs with
  | nil => rfl
  | cons f fs ih => rw [List.map_cons, ← ih]; rfl

theorem elementTrees_eq (es : List Literal) : elementTrees es = es.map tree := by
  induction es with
  | nil => rfl
  | cons e es ih => rw [List.map_cons, ← ih]; rfl

theorem literal_tree (v : Literal) : v.tree.literal = v := by
  induction v with
  | number n => rfl
  | string s => rfl
  | boolean b => rfl
  | object fs ih =>
    rw [tree, ValueTree.literal_object, Enclosed.items_ofList, fieldTrees_eq, List.map_map]
    have hid : ∀ f ∈ fs, (fieldTree f).property = id f := fun f hf =>
      Prod.ext (NameTree.name_written f.1) (ih f hf)
    exact congrArg Literal.object ((List.map_congr_left hid).trans (List.map_id fs))
  | array es ih =>
    rw [tree, ValueTree.literal_array, Enclosed.items_ofList, elementTrees_eq, List.map_map]
    have hid : ∀ e ∈ es, e.tree.literal = id e := ih
    exact congrArg Literal.array ((List.map_congr_left hid).trans (List.map_id es))

end Literal

/-! ### What the written text says -/

/-- What tokens say, wherever they stand. -/
def said (ts : List (Located Token)) : List Meaning :=
  ts.map fun t => .token t.val

theorem said_cons (t : Located Token) (ts : List (Located Token)) :
    said (t :: ts) = .token t.val :: said ts := rfl

theorem said_append (as bs : List (Located Token)) : said (as ++ bs) = said as ++ said bs :=
  List.map_append

theorem said_eq_map (ts : List (Located Token)) : said ts = (ts.map Located.val).map .token := by
  rw [said, List.map_map]
  rfl

/-- A character that could go on with a word or a number. -/
def isLiteralChar (c : Char) : Bool :=
  isWordChar c || isNumberChar c

theorem StopsAt.isWordChar {rest : List Char} (h : StopsAt isLiteralChar rest) :
    StopsAt isWordChar rest :=
  fun c hc => (Bool.or_eq_false_iff.1 (h c hc)).1

theorem StopsAt.isNumberChar {rest : List Char} (h : StopsAt isLiteralChar rest) :
    StopsAt isNumberChar rest :=
  fun c hc => (Bool.or_eq_false_iff.1 (h c hc)).2

/-- **The text says the tokens,** and then what the rest says, if the rest cannot go on with it. -/
def Spells (text : String) (ts : List (Located Token)) : Prop :=
  ∀ rest, StopsAt isLiteralChar rest → meanings (text.toList ++ rest) = said ts ++ meanings rest

theorem Spells.indent {text : String} {ts : List (Located Token)} (h : Spells text ts)
    (depth : ℕ) : Spells (tabs depth ++ text) ts := by
  intro rest hr
  rw [String.toList_append, List.append_assoc, meanings_tabs, h rest hr]

theorem spells_propertyName (name : String) :
    Spells (propertyName name) [(NameTree.written name).token] := by
  intro rest hr
  unfold propertyName NameTree.written
  split_ifs with h
  · exact meanings_word h hr.isWordChar
  · exact meanings_quote name rest

theorem Spells.field {text : String} {v : Literal} (h : Spells text v.tree.tokens) (name : String) :
    Spells (propertyName name ++ ": " ++ text) (Literal.fieldTree (name, v)).tokens := by
  intro rest hr
  have hstop : StopsAt isLiteralChar (':' :: ' ' :: (text.toList ++ rest)) :=
    stopsAt_cons.2 (by decide)
  have htext : (propertyName name ++ ": " ++ text).toList ++ rest
      = (propertyName name).toList ++ ':' :: ' ' :: (text.toList ++ rest) := by
    simp
  rw [htext, spells_propertyName name _ hstop, meanings_mark rfl, meanings_gap (by decide),
    h rest hr]
  rfl

section Lines
variable {α β : Type} {line : α → String} {entry : α → β} {f : β → List (Located Token)}

theorem spells_commaLines (a : α) (as : List α)
    (h : ∀ x ∈ a :: as, Spells (line x) (f (entry x))) :
    Spells (commaLines ((a :: as).map line))
      (f (entry a) ++ tokensBehindCommas f (as.map fun x => (default, entry x))) := by
  induction as generalizing a with
  | nil =>
    intro rest hr
    simpa [commaLines] using h a List.mem_cons_self rest hr
  | cons b as ih =>
    intro rest hr
    have ha := h a List.mem_cons_self
    have hb := ih b fun x hx => h x (List.mem_cons_of_mem a hx)
    have htext : (commaLines ((a :: b :: as).map line)).toList ++ rest
        = (line a).toList
          ++ ',' :: '\n' :: ((commaLines ((b :: as).map line)).toList ++ rest) := by
      simp [commaLines, String.intercalate_cons_cons]
    rw [htext, ha _ (stopsAt_cons.2 (by decide)), meanings_mark rfl, meanings_gap (by decide),
      hb rest hr, List.map_cons, tokensBehindCommas_cons, said_append (f (entry a)), said_cons,
      List.append_assoc]
    rfl

/-- **Lines in brackets** say a list in brackets. -/
theorem meanings_enclosed {left right : Char} {l r : Token} (hl : Token.ofMark? left = some l)
    (hr : Token.ofMark? right = some r) (depth : ℕ) (a : α) (as : List α)
    (h : ∀ x ∈ a :: as, Spells (line x) (f (entry x))) (rest : List Char) :
    meanings (left :: '\n' :: ((commaLines ((a :: as).map line)).toList
        ++ '\n' :: ((tabs depth).toList ++ right :: rest)))
      = said ((Enclosed.ofList ((a :: as).map entry)).tokens f l r) ++ meanings rest := by
  have hstop : StopsAt isLiteralChar ('\n' :: ((tabs depth).toList ++ right :: rest)) :=
    stopsAt_cons.2 (by decide)
  rw [meanings_mark hl, meanings_gap (by decide), spells_commaLines a as h _ hstop,
    meanings_gap (by decide), meanings_tabs, meanings_mark hr]
  simp only [List.map_cons, Enclosed.ofList, Enclosed.tokens, tokensInside_some, CommaList.tokens,
    optionalComma_none, List.append_nil, said_cons, said_append, List.append_assoc,
    List.cons_append, List.map_map, Function.comp_def]
  rfl

theorem meanings_brackets {left right : Char} {l r : Token} (hl : Token.ofMark? left = some l)
    (hr : Token.ofMark? right = some r) (rest : List Char) :
    meanings (left :: right :: rest)
      = said ((Enclosed.ofList ([] : List β)).tokens f l r) ++ meanings rest := by
  rw [meanings_mark hl, meanings_mark hr]
  rfl

end Lines

namespace Literal

theorem fieldLines_eq (depth : ℕ) (fs : List (String × Literal)) : fieldLines depth fs
    = fs.map fun f => tabs depth ++ (propertyName f.1 ++ ": " ++ f.2.render (depth + 1)) := by
  induction fs with
  | nil => rfl
  | cons f fs ih => rw [fieldLines, ih, List.map_cons, String.append_assoc, String.append_assoc,
      String.append_assoc]

theorem elementLines_eq (depth : ℕ) (es : List Literal) :
    elementLines depth es = es.map fun e => tabs depth ++ e.render (depth + 1) := by
  induction es with
  | nil => rfl
  | cons e es ih => rw [elementLines, ih, List.map_cons]

/-- **A written literal says its tokens,** at every indentation. -/
theorem spells_render (v : Literal) (hv : v.WellSpelled) (depth : ℕ) :
    Spells (v.render depth) v.tree.tokens := by
  induction v generalizing depth with
  | number n => exact fun rest hr => meanings_number (wellSpelled_number.1 hv) hr.isNumberChar
  | string s => exact fun rest _ => meanings_quote s rest
  | boolean b =>
    intro rest hr
    have hbare : isBareName (if b then "true" else "false") = true := by cases b <;> decide
    rw [render]
    exact meanings_word hbare hr.isWordChar
  | object fs ih =>
    intro rest hr
    rw [tree, ValueTree.tokens_object, fieldTrees_eq]
    rcases fs with _ | ⟨f, fs⟩
    · have htext : (render depth (object [])).toList ++ rest = '\x7b' :: '\x7d' :: rest := by
        simp [render]
      rw [htext]
      exact meanings_brackets rfl rfl rest
    · have htext : (render depth (object (f :: fs))).toList ++ rest = '\x7b' :: '\n' ::
          ((commaLines (fieldLines depth (f :: fs))).toList
            ++ '\n' :: ((tabs (depth - 1)).toList ++ '\x7d' :: rest)) := by
        simp [render]
      rw [htext, fieldLines_eq]
      refine meanings_enclosed rfl rfl (depth - 1) f fs (fun x hx => ?_) rest
      have hx' := ih x hx (wellSpelled_object.1 hv x hx) (depth + 1)
      exact (hx'.field x.1).indent depth
  | array es ih =>
    intro rest hr
    rw [tree, ValueTree.tokens_array, elementTrees_eq]
    rcases es with _ | ⟨e, es⟩
    · have htext : (render depth (array [])).toList ++ rest = '[' :: ']' :: rest := by
        simp [render]
      rw [htext]
      exact meanings_brackets rfl rfl rest
    · have htext : (render depth (array (e :: es))).toList ++ rest = '[' :: '\n' ::
          ((commaLines (elementLines depth (e :: es))).toList
            ++ '\n' :: ((tabs (depth - 1)).toList ++ ']' :: rest)) := by
        simp [render]
      rw [htext, elementLines_eq]
      refine meanings_enclosed rfl rfl (depth - 1) e es (fun x hx => ?_) rest
      exact (ih x hx (wellSpelled_array.1 hv x hx) (depth + 1)).indent depth

end Literal

/-! ### Reading back -/

/-- The reader looks at the tokens only, not at where they stand. -/
theorem runFrom_literalReader_congr {v : Literal} : ∀ {ts us : List (Located Token)}
    {s : LiteralState}, ts.map Located.val = us.map Located.val →
    literalReader.runFrom s ts = .ok v → literalReader.runFrom s us = .ok v
  | [], [], _, _, h => h
  | t :: ts, u :: us, s, heq, h => by
    obtain ⟨hval, hrest⟩ := List.cons_eq_cons.1 heq
    obtain ⟨s', hs, hrun⟩ := Machine.runFrom_cons_eq_ok_iff.1 h
    have hs' : literalReader.step s u = some s' := by
      rw [← hs]
      exact congrArg s.step hval.symm
    exact Machine.runFrom_cons_eq_ok_iff.2 ⟨s', hs', runFrom_literalReader_congr hrest hrun⟩

/-- **A well-spelled literal reads back,** and nothing in its text is a fault. -/
theorem parseLiteral_scan_render {v : Literal} (hv : v.WellSpelled) (depth : ℕ) :
    (scan (v.render depth)).faults = [] ∧
      parseLiteral (scan (v.render depth)).tokens = .ok v := by
  have hspells := v.spells_render hv depth [] (stopsAt_nil _)
  rw [List.append_nil, meanings_nil, List.append_nil] at hspells
  obtain ⟨hfaults, hscan⟩ := scan_of_meanings (hspells.trans (said_eq_map _))
  refine ⟨hfaults, parseLiteral_eq_ok_iff.2 ?_⟩
  have hrun : literalReader.run v.tree.tokens = .ok v :=
    run_literalReader_eq_ok_iff.2 ⟨v.tree, rfl, v.literal_tree⟩
  exact runFrom_literalReader_congr hscan.symm hrun

/-- **Literal round trip.** Every literal that is read from a text is well spelled, and every
well-spelled literal, written at any indentation, scans without a fault and reads back as itself:
with its fields in their order, its repeated names and the spellings of its numbers. -/
theorem literal_round_trip :
    (∀ (source : String) (v : Literal),
      parseLiteral (scan source).tokens = .ok v → v.WellSpelled) ∧
    ∀ (v : Literal) (depth : ℕ), v.WellSpelled →
      (scan (v.render depth)).faults = [] ∧
        parseLiteral (scan (v.render depth)).tokens = .ok v :=
  ⟨fun _ _ h => wellSpelled_of_parseLiteral h,
    fun _ depth hv => parseLiteral_scan_render hv depth⟩

/-- A literal that is hard to write: empty and repeated names, a name that is a keyword, one that
looks like a number, quotes, backslashes and line ends in texts and names. -/
def unwieldyLiteral : Literal :=
  .object [("", .string "it's \"here\" \\ there\r\n\t\\n"), ("", .number "-1.50e+07"),
    ("true", .array [.boolean true, .object [], .array []]),
    ("1e5", .object [("a'b\\\nc", .number "0")]), ("naïve", .string "")]

theorem literal_round_trip_unwieldy :
    (parseLiteral (scan "-0.5E3").tokens = .ok (.number "-0.5E3") ∧
      (Literal.number "-0.5E3").WellSpelled) ∧
    unwieldyLiteral.WellSpelled ∧
      (scan (unwieldyLiteral.render 3)).faults = [] ∧
        parseLiteral (scan (unwieldyLiteral.render 3)).tokens = .ok unwieldyLiteral := by
  -- A number is written as it is spelled, so this text is a written literal too.
  have hread : parseLiteral (scan "-0.5E3").tokens = .ok (.number "-0.5E3") :=
    (parseLiteral_scan_render (v := .number "-0.5E3") (by decide) 0).2
  have hspelled : unwieldyLiteral.WellSpelled := by decide
  exact ⟨⟨hread, literal_round_trip.1 _ _ hread⟩, hspelled,
    literal_round_trip.2 unwieldyLiteral 3 hspelled⟩

end EntityForge
