import EntityForge.Report.Transcript
import EntityForge.Report.Summary

/-! # Reporters

A reporter turns the events of a build into text, in one of the report formats.

* `Reporter`: a format with what has been collected so far.
* `Reporter.observe`: takes one event and gives the text to be written for it.
* `Reporter.observeAll`: the same for a list of events. -/

namespace EntityForge

/-- **A reporter.** Colours are for lines only. -/
structure Reporter where
  format : ReportFormat
  colors : Bool := false
  summary : Summary := {}
  deriving Repr

namespace Reporter

/-- A document as this reporter writes it. -/
def write (r : Reporter) (j : Document) : String :=
  (match r.format with
    | .indented => j.indented
    | _ => j.compact) ++ "\n"

/-- The reporter after an event. Lines need no memory. -/
def after (r : Reporter) (e : Event) : Reporter :=
  match r.format with
  | .transcript => r
  | _ => { r with summary := r.summary.add e }

/-- The text for an event, given the reporter after it. -/
def textOf (r : Reporter) (e : Event) : String :=
  match r.format with
  | .transcript => Transcript.render r.colors e
  | _ =>
    match r.summary.document? e with
    | some j => r.write j
    | none => ""

/-- **Takes one event.** -/
def observe (r : Reporter) (e : Event) : Reporter × String :=
  let r := r.after e
  (r, r.textOf e)

/-- **Takes events one after the other** and joins their texts. -/
def observeAll (r : Reporter) : List Event → Reporter × String
  | [] => (r, "")
  | e :: es =>
    let (r, text) := r.observe e
    let (r, rest) := r.observeAll es
    (r, text ++ rest)

end Reporter

end EntityForge
