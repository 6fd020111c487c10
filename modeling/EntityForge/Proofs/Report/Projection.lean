import EntityForge.Report.Reporter
import EntityForge.Proofs.Include.Lines
import EntityForge.Proofs.Token.Spelling
import Mathlib.Data.List.Infix
import Mathlib.Data.List.Induction

/-! # Reports and the events they tell of

A reporter that writes documents collects events one by one. What it has collected can be read off
the list of events at once, and so can what it has written: one document for each initial part of
the events that ends in a completion or a failure. A compact document has no control characters, so
it is one line of the output.

* `Summary.ofEvents`: what events amount to. `Summary.ofEvents_concat`: one more event.
* `Summary.documents`: the documents that events call for.
* `Reporter.observeAll_eq`: a reporter after events, and what it has written.
* `Document.clean_compact`: compact documents have no control characters.
* `Document.splitLines_join`: so they are lines.
* `reports_project_events`: all of it for a fresh reporter. -/

namespace EntityForge

/-! ### What events amount to -/

namespace Event

/-- The message of a rejected declaration. -/
def rejection? : Event → Option String
  | rejected e => some e.message
  | _ => none

/-- The entry of a component. -/
def component? : Event → Option SummaryEntry
  | component a skipped => some ⟨a.name, a.file, skipped⟩
  | _ => none

/-- The entry of a system. -/
def system? : Event → Option SummaryEntry
  | system a skipped => some ⟨a.name, a.file, skipped⟩
  | _ => none

/-- The entry of a factory. -/
def factory? : Event → Option SummaryFactory
  | factory a skipped => some ⟨a.file, a.creators, skipped⟩
  | _ => none

/-- The project that is completed. -/
def project? : Event → Option String
  | completed project => some project
  | _ => none

/-- Whether an event is reported at once. -/
def isReported : Event → Bool
  | completed _ | malformed _ | failed _ => true
  | _ => false

end Event

namespace Summary

/-- **What events amount to:** warnings, rejected declarations, components and systems in order, the
last factory and the last project. -/
def ofEvents (es : List Event) : Summary where
  projectName := (es.filterMap Event.project?).getLast?.getD ""
  warnings := es.filterMap Event.warning?
  errors := es.filterMap Event.rejection?
  components := es.filterMap Event.component?
  systems := es.filterMap Event.system?
  factory := (es.filterMap Event.factory?).getLast?

theorem ofEvents_concat (es : List Event) (e : Event) :
    ofEvents (es ++ [e]) = (ofEvents es).add e := by
  cases e <;> simp [ofEvents, add, SummaryEntry.ofArtifact, List.filterMap_append,
    List.filterMap_cons, Event.project?, Event.warning?, Event.rejection?, Event.component?,
    Event.system?, Event.factory?]

/-- The document that the last of some events calls for: what the events amount to if it is a
completion. -/
def lastDocument? (es : List Event) : Option Document :=
  match es.getLast? with
  | some (.completed _) => some (ofEvents es).toDocument
  | some (.malformed e) => some e.toDocument
  | some (.failed e) => some e.toDocument
  | _ => none

/-- **The documents that events call for,** those of all their initial parts. -/
def documents (es : List Event) : List Document :=
  es.inits.filterMap lastDocument?

theorem documents_concat (es : List Event) (e : Event) :
    documents (es ++ [e]) = documents es ++ (((ofEvents es).add e).document? e).toList := by
  have hlast : lastDocument? (es ++ [e]) = ((ofEvents es).add e).document? e := by
    rw [← ofEvents_concat, lastDocument?, List.getLast?_concat]
    cases e <;> rfl
  have hinits : (es ++ [e]).inits = es.inits ++ [es ++ [e]] := by
    rw [List.inits_append]
    rfl
  rw [documents, hinits, List.filterMap_append, ← hlast]
  rcases hdocument : lastDocument? (es ++ [e]) with _ | d <;> simp [documents, hdocument]

theorem length_documents (es : List Event) :
    (documents es).length = es.countP Event.isReported := by
  induction es using List.reverseRecOn with
  | nil => rfl
  | append_singleton es e ih =>
    rw [documents_concat, List.length_append, ih, List.countP_append]
    cases e <;> rfl

end Summary

/-! ### What is written -/

namespace Reporter

theorem observeAll_concat (r : Reporter) (es : List Event) (e : Event) :
    r.observeAll (es ++ [e]) = (((r.observeAll es).1.observe e).1,
      (r.observeAll es).2 ++ ((r.observeAll es).1.observe e).2) := by
  induction es generalizing r with
  | nil => simp [observeAll]
  | cons f es ih => simp [observeAll, ih, String.append_assoc]

section Documents
variable {r : Reporter} (hformat : r.format ≠ .transcript)
include hformat

theorem after_eq (e : Event) : r.after e = { r with summary := r.summary.add e } := by
  unfold after
  split
  · next htranscript => exact absurd htranscript hformat
  · rfl

theorem textOf_eq (e : Event) :
    r.textOf e = String.join ((r.summary.document? e).toList.map r.write) := by
  unfold textOf
  split
  · next htranscript => exact absurd htranscript hformat
  · rcases r.summary.document? e with _ | d
    · rfl
    · simp

/-- **A reporter after events,** and what it has written. -/
theorem observeAll_eq (hfresh : r.summary = {}) (es : List Event) :
    r.observeAll es = ({ r with summary := Summary.ofEvents es },
      String.join ((Summary.documents es).map r.write)) := by
  induction es using List.reverseRecOn with
  | nil =>
    have hnil : Summary.ofEvents [] = r.summary := by
      rw [hfresh]
      rfl
    rw [hnil]
    rfl
  | append_singleton es e ih =>
    have hstep := after_eq (r := { r with summary := Summary.ofEvents es }) hformat e
    have htext := textOf_eq (r := { r with summary := Summary.ofEvents (es ++ [e]) }) hformat e
    rw [Summary.ofEvents_concat] at htext
    rw [observeAll_concat, ih, observe, hstep, htext, Summary.ofEvents_concat,
      Summary.documents_concat, List.map_append, String.join_append]
    rfl

end Documents

end Reporter

/-! ### Documents as lines -/

namespace Document

/-- A text without control characters, as far as a document would escape them. -/
def Clean (s : String) : Prop :=
  ∀ c ∈ s.toList, 0x20 ≤ c.toNat

instance (s : String) : Decidable (Clean s) :=
  List.decidableBAll (fun c : Char => 0x20 ≤ c.toNat) s.toList

theorem Clean.append {s t : String} (hs : Clean s) (ht : Clean t) : Clean (s ++ t) := by
  intro c hc
  rw [String.toList_append, List.mem_append] at hc
  exact hc.elim (hs c) (ht c)

theorem clean_intercalate {l : List String} (h : ∀ s ∈ l, Clean s) : Clean (",".intercalate l) := by
  have hcomma : Clean "," := by decide
  induction l with
  | nil => decide
  | cons s l ih =>
    obtain ⟨hs, hl⟩ := List.forall_mem_cons.1 h
    rcases l with _ | ⟨t, l⟩
    · rwa [String.intercalate_singleton]
    · rw [String.intercalate_cons_cons]
      exact (hs.append hcomma).append (ih hl)

theorem clean_quoteChar (c : Char) : ∀ d ∈ quoteChar c, 0x20 ≤ d.toNat := by
  have hhex : ∀ n < 16, 0x20 ≤ (hexDigit n).toNat := by decide
  unfold quoteChar
  iterate 7
    split
    · simp
  split
  · next hcontrol =>
    have hhigh := hhex (c.toNat / 16) (by omega)
    have hlow := hhex (c.toNat % 16) (by omega)
    simp [hhigh, hlow]
  · next hprintable => simpa using hprintable

theorem clean_quote (s : String) : Clean (quote s) := by
  have hmark : Clean "\"" := by decide
  refine (hmark.append fun d hd => ?_).append hmark
  rw [String.toList_ofList, List.mem_flatMap] at hd
  obtain ⟨c, -, hd⟩ := hd
  exact clean_quoteChar c d hd

theorem clean_toString (n : ℕ) : Clean (toString n) := by
  intro c hc
  have hdigit := (isDigits_toString n).2 c hc
  exact le_trans (by decide) (Char.isDigit_iff_toNat.1 hdigit).1

mutual
theorem clean_compact : ∀ d : Document, Clean d.compact
  | null => by decide
  | bool b => by cases b <;> decide
  | number n => clean_toString n
  | string s => clean_quote s
  | list items => by
    have hopen : Clean "[" := by decide
    have hclose : Clean "]" := by decide
    exact (hopen.append (clean_intercalate (clean_compactItems items))).append hclose
  | record fields => by
    have hopen : Clean "\x7b" := by decide
    have hclose : Clean "\x7d" := by decide
    exact (hopen.append (clean_intercalate (clean_compactFields fields))).append hclose

theorem clean_compactItems : ∀ ds : List Document, ∀ s ∈ compactItems ds, Clean s
  | [] => by simp [compactItems]
  | d :: ds => by
    rw [compactItems, List.forall_mem_cons]
    exact ⟨clean_compact d, clean_compactItems ds⟩

theorem clean_compactFields :
    ∀ fields : List (String × Document), ∀ s ∈ compactFields fields, Clean s
  | [] => by simp [compactFields]
  | (name, d) :: fields => by
    have hcolon : Clean ":" := by decide
    rw [compactFields, List.forall_mem_cons]
    exact ⟨((clean_quote name).append hcolon).append (clean_compact d), clean_compactFields fields⟩
end

theorem newline_notMem_compact (d : Document) : '\n' ∉ d.compact.toList := by
  intro hmem
  exact absurd (clean_compact d _ hmem) (by decide)

/-- **Compact documents are the lines of their concatenation.** -/
theorem splitLines_join (ds : List Document) :
    Text.splitLines (String.join (ds.map fun d => d.compact ++ "\n")).toList =
      ds.map fun d => d.compact.toList ++ ['\n'] := by
  induction ds with
  | nil => rfl
  | cons d ds ih =>
    have hline := Text.splitLines_line (newline_notMem_compact d)
      (String.join (ds.map fun d => d.compact ++ "\n")).toList
    rw [List.map_cons, List.map_cons, String.join_cons, ← ih, ← hline]
    simp

theorem count_newline_join (ds : List Document) :
    (String.join (ds.map fun d => d.compact ++ "\n")).toList.count '\n' = ds.length := by
  induction ds with
  | nil => rfl
  | cons d ds ih =>
    have hnone := List.count_eq_zero_of_not_mem (newline_notMem_compact d)
    rw [List.map_cons, String.join_cons, String.toList_append, List.count_append, ih,
      String.toList_append, List.count_append, hnone, List.length_cons, Nat.add_comm]
    rfl

end Document

/-- A fresh reporter that writes documents. -/
def Reporter.forDocuments (indented : Bool) : Reporter :=
  { format := if indented then .indented else .document }

/-- **Reports tell exactly of the events.** After any events a fresh reporter has collected what
they amount to, and has written the documents that they call for, each followed by a line feed: one
for each completion or failure. Compact documents are the lines of what is written. -/
theorem reports_project_events (indented : Bool) (es : List Event) :
    ((Reporter.forDocuments indented).observeAll es).1.summary = Summary.ofEvents es ∧
      ((Reporter.forDocuments indented).observeAll es).2 =
        String.join ((Summary.documents es).map fun d =>
          (if indented then d.indented else d.compact) ++ "\n") ∧
      (Summary.documents es).length = es.countP Event.isReported ∧
      Text.splitLines ((Reporter.forDocuments false).observeAll es).2.toList =
        (Summary.documents es).map (fun d => d.compact.toList ++ ['\n']) ∧
      ((Reporter.forDocuments false).observeAll es).2.toList.count '\n' =
        es.countP Event.isReported := by
  have hrun : ∀ indented, (Reporter.forDocuments indented).observeAll es =
      ({ Reporter.forDocuments indented with summary := Summary.ofEvents es },
        String.join ((Summary.documents es).map fun d =>
          (if indented then d.indented else d.compact) ++ "\n")) := by
    intro indented
    cases indented
    · exact Reporter.observeAll_eq (by decide) rfl es
    · exact Reporter.observeAll_eq (by decide) rfl es
  rw [hrun indented, hrun false]
  refine ⟨rfl, rfl, Summary.length_documents es, Document.splitLines_join _, ?_⟩
  rw [← Summary.length_documents]
  exact Document.count_newline_join _

end EntityForge
