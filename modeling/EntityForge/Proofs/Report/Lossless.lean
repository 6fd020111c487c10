import EntityForge.Proofs.Report.Legibility
import EntityForge.Proofs.Report.Projection

/-! # Reports lose nothing

A summary is written without its list of errors if that is empty, and a file without its mark if it
was not skipped. Nothing is lost by this: what is left out is told apart by the name of the field
that stands in its place, or by there being none. So the document of a summary determines the
summary, and by `Document.Layout.legible` each of its written forms does. The document of a failure
has another first field.

* `Summary.toDocument_injective`: a summary is determined by its document.
* `Document.forms_disjoint`: different records have no written form in common.
* `reports_lossless`: the written forms of summaries and failures. -/

namespace EntityForge

open Document

/-! ### The documents of summaries -/

theorem skipField_injective : Function.Injective skipField := by
  intro skipped skipped' h
  cases skipped <;> cases skipped' <;> simp [skipField] at h ⊢

theorem Creator.toDocument_injective : Function.Injective Creator.toDocument := by
  rintro ⟨template, name⟩ ⟨template', name'⟩ h
  simpa [Creator.toDocument] using h

theorem SummaryEntry.toDocument_injective : Function.Injective SummaryEntry.toDocument := by
  rintro ⟨name, file, skipped⟩ ⟨name', file', skipped'⟩ h
  simp only [SummaryEntry.toDocument, record.injEq, List.cons_append, List.nil_append,
    List.cons.injEq, Prod.mk.injEq, string.injEq, true_and] at h
  obtain ⟨rfl, rfl, hskip⟩ := h
  rw [skipField_injective hskip]

theorem SummaryFactory.toDocument_injective : Function.Injective SummaryFactory.toDocument := by
  rintro ⟨file, creators, skipped⟩ ⟨file', creators', skipped'⟩ h
  simp only [SummaryFactory.toDocument, record.injEq, List.cons_append, List.nil_append,
    List.cons.injEq, Prod.mk.injEq, string.injEq, list.injEq, true_and] at h
  obtain ⟨rfl, hcreators, hskip⟩ := h
  rw [List.map_injective_iff.2 Creator.toDocument_injective hcreators, skipField_injective hskip]

theorem map_string_injective : Function.Injective (List.map Document.string) :=
  List.map_injective_iff.2 fun _ _ h => string.inj h

/-- A list of errors that may be left out is told apart by the name of the field behind it. -/
theorem errorsField_inj {errors errors' : List String} {d d' : Document}
    {fields fields' : List (String × Document)}
    (h : (if errors = [] then [] else [("errors", list (errors.map string))])
        ++ ("components", d) :: fields =
      (if errors' = [] then [] else [("errors", list (errors'.map string))])
        ++ ("components", d') :: fields') :
    errors = errors' ∧ d = d' ∧ fields = fields' := by
  by_cases hnone : errors = [] <;> by_cases hnone' : errors' = []
  · simp only [hnone, hnone', if_true, List.nil_append, List.cons.injEq, Prod.mk.injEq,
      true_and] at h
    exact ⟨hnone.trans hnone'.symm, h⟩
  · simp [hnone, hnone'] at h
  · simp [hnone, hnone'] at h
  · simp only [hnone, hnone', if_false, List.singleton_append, List.cons.injEq, Prod.mk.injEq,
      list.injEq, true_and] at h
    exact ⟨map_string_injective h.1, h.2⟩

/-- **A summary is determined by its document.** -/
theorem Summary.toDocument_injective : Function.Injective Summary.toDocument := by
  rintro ⟨project, warnings, errors, components, systems, factory⟩
    ⟨project', warnings', errors', components', systems', factory'⟩ h
  simp only [Summary.toDocument, record.injEq, List.cons_append, List.nil_append,
    List.cons.injEq, Prod.mk.injEq, string.injEq, list.injEq, true_and] at h
  obtain ⟨rfl, hwarnings, hrest⟩ := h
  obtain ⟨rfl, hcomponents, hrest⟩ := errorsField_inj hrest
  simp only [list.injEq, List.cons.injEq, Prod.mk.injEq, true_and, and_true] at hcomponents hrest
  obtain ⟨hsystems, hfactory⟩ := hrest
  have hentries := List.map_injective_iff.2 SummaryEntry.toDocument_injective
  obtain rfl := map_string_injective hwarnings
  obtain rfl := hentries hcomponents
  obtain rfl := hentries hsystems
  rcases factory with _ | f <;> rcases factory' with _ | f'
  · rfl
  · cases hfactory
  · cases hfactory
  · rw [SummaryFactory.toDocument_injective hfactory]

/-! ### Written forms -/

namespace Document

/-- **The written forms** of a document. -/
def forms (d : Document) : List String :=
  [d.compact, d.indented]

theorem newline_mem_indented (f : String × Document) (fields : List (String × Document)) :
    '\n' ∈ (record (f :: fields)).indented.toList := by
  have hwrite : (record (f :: fields)).indented.toList = _ :=
    Layout.indented.write_record 0 (f :: fields)
  rw [hwrite]
  simp [Spacing.enclosed, Layout.indented, Spacing.lines]

/-- **Different records have no written form in common,** as long as neither is empty: two texts of
one form are told apart as documents, and only an indented record has line feeds. -/
theorem forms_disjoint {f g : String × Document} {fs gs : List (String × Document)}
    (h : record (f :: fs) ≠ record (g :: gs)) :
    (record (f :: fs)).forms.Disjoint (record (g :: gs)).forms := by
  have hmixed : ∀ (d : Document) (f : String × Document) (fs : List (String × Document)),
      d.compact ≠ (record (f :: fs)).indented := by
    intro d f fs heq
    exact newline_notMem_compact d (heq ▸ newline_mem_indented f fs)
  intro text hf hg
  simp only [forms, List.mem_cons, List.not_mem_nil, or_false] at hf hg
  rcases hf with rfl | rfl <;> rcases hg with hg | hg
  · exact h (compact_injective hg)
  · exact hmixed _ _ _ hg
  · exact hmixed _ _ _ hg.symm
  · exact h (indented_injective hg)

end Document

theorem Summary.forms_disjoint_error (s : Summary) (body : Document) :
    s.toDocument.forms.Disjoint (record [("error", body)]).forms := by
  refine forms_disjoint ?_
  intro h
  simp at h

/-- **Reports lose nothing.** Summaries with the same compact form are equal, and so are summaries
with the same indented form, whatever characters their texts have. No written form of a summary is a
written form of a failure. -/
theorem reports_lossless (s t : Summary) :
    (s.toDocument.compact = t.toDocument.compact ↔ s = t) ∧
      (s.toDocument.indented = t.toDocument.indented ↔ s = t) ∧
      (∀ e : SourceError, s.toDocument.forms.Disjoint e.toDocument.forms) ∧
      ∀ e : BuildError, s.toDocument.forms.Disjoint e.toDocument.forms := by
  have hcompact := compact_injective.comp Summary.toDocument_injective
  have hindented := indented_injective.comp Summary.toDocument_injective
  exact ⟨hcompact.eq_iff, hindented.eq_iff, fun e => s.forms_disjoint_error _,
    fun e => s.forms_disjoint_error _⟩

end EntityForge
