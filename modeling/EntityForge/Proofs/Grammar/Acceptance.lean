import EntityForge.Proofs.Grammar.Declarations
import EntityForge.Proofs.Grammar.Unambiguous

/-! # Parsing accepts exactly the grammar

A list of tokens is parsed into a program if it derives from the grammar and has one project
declaration, and the program is what the only derivation means. A list that derives from the grammar
without a project, or with several, gives the faults for that and no others. -/

namespace EntityForge

/-! ### Sorting the declarations that trees mean -/

variable (d : DescriptionTree)

theorem projectsOf_declarations :
    projectsOf (d.map DeclarationTree.declaration) = d.projects := by
  unfold projectsOf DescriptionTree.projects
  rw [List.filterMap_map]
  exact List.filterMap_congr fun a _ => by cases a <;> rfl

theorem componentsOf_declarations :
    componentsOf (d.map DeclarationTree.declaration) = d.filterMap DeclarationTree.component? := by
  unfold componentsOf
  rw [List.filterMap_map]
  exact List.filterMap_congr fun a _ => by cases a <;> rfl

theorem templatesOf_declarations :
    templatesOf (d.map DeclarationTree.declaration) = d.filterMap DeclarationTree.template? := by
  unfold templatesOf
  rw [List.filterMap_map]
  exact List.filterMap_congr fun a _ => by cases a <;> rfl

theorem systemsOf_declarations :
    systemsOf (d.map DeclarationTree.declaration) = d.filterMap DeclarationTree.system? := by
  unfold systemsOf
  rw [List.filterMap_map]
  exact List.filterMap_congr fun a _ => by cases a <;> rfl

theorem parseDescription_tokens : parseDescription d.tokens =
    match d.projects with
    | [] => .error ⟨⟨.missingProject, ⟨endOfTokens d.tokens, endOfTokens d.tokens⟩⟩, []⟩
    | [(name, _)] => .ok (d.program name)
    | (name, _) :: (_, again) :: others =>
      .error ⟨⟨.duplicateProject name.val, again⟩,
        others.map fun p => ⟨.duplicateProject name.val, p.2⟩⟩ := by
  have hrun := run_declarationReader_eq_ok_iff.2 ⟨d, rfl, rfl⟩
  simp only [parseDescription, hrun, sortDeclarations, projectsOf_declarations,
    componentsOf_declarations, templatesOf_declarations, systemsOf_declarations]
  rfl

variable {d}

theorem parseDescription_eq_ok_iff {ts : List (Located Token)} {p : Program} :
    parseDescription ts = .ok p ↔ ∃ d : DescriptionTree, d.tokens = ts ∧
      ∃ name span, d.projects = [(name, span)] ∧ p = d.program name := by
  constructor
  · intro h
    obtain ⟨ds, hds⟩ : ∃ ds, declarationReader.run ts = .ok ds := by
      unfold parseDescription at h
      split at h
      · next ds hds => exact ⟨ds, hds⟩
      · cases h
    obtain ⟨d, rfl, -⟩ := run_declarationReader_eq_ok_iff.1 hds
    rw [parseDescription_tokens] at h
    split at h
    · cases h
    · next name span hd => exact ⟨d, rfl, name, span, hd, (Except.ok.inj h).symm⟩
    · cases h
  · rintro ⟨d, rfl, name, span, hd, rfl⟩
    rw [parseDescription_tokens, hd]

/-- A fault as it is shown: its wording and its place. -/
def ParseFaults.reports (fs : ParseFaults) : List (String × Span) :=
  fs.toList.map fun f => (f.val.message, f.span)

theorem parseDescription_of_no_project (h : d.projects = []) :
    ∃ fs, parseDescription d.tokens = .error fs ∧ fs.reports =
      [("missing project declaration", ⟨endOfTokens d.tokens, endOfTokens d.tokens⟩)] := by
  rw [parseDescription_tokens, h]
  exact ⟨_, rfl, rfl⟩

theorem parseDescription_of_projects {name : Name} {span : Span} {again : Name × Span}
    {others : List (Name × Span)} (h : d.projects = (name, span) :: again :: others) :
    ∃ fs, parseDescription d.tokens = .error fs ∧ fs.reports = (again :: others).map fun p =>
      ("duplicate project declaration (project '" ++ name.val ++ "' already declared)", p.2) := by
  have hparse := parseDescription_tokens d
  rw [h] at hparse
  refine ⟨_, hparse, ?_⟩
  unfold ParseFaults.reports ParseFaults.toList
  rw [List.map_cons, List.map_cons, List.map_map]
  congr 1

/-- **Parsing accepts exactly the grammar.** A list of tokens is parsed into `p` if and only if it
derives from the grammar with exactly one project, and `p` is what the derivation means. No list has
two derivations. A list that derives from the grammar without a project has that as its only fault,
at its end; with further projects it has one fault for each of them. -/
theorem parseDescription_accepts_grammar (ts : List (Located Token)) :
    (∀ p, parseDescription ts = .ok p ↔ ∃ d : DescriptionTree, d.tokens = ts ∧
      ∃ name span, d.projects = [(name, span)] ∧ p = d.program name) ∧
    (∀ d d' : DescriptionTree, d.tokens = ts → d'.tokens = ts → d = d') ∧
    (∀ d : DescriptionTree, d.tokens = ts → d.projects = [] →
      ∃ fs, parseDescription ts = .error fs ∧ fs.reports =
        [("missing project declaration", ⟨endOfTokens ts, endOfTokens ts⟩)]) ∧
    ∀ (d : DescriptionTree) (name : Name) (span : Span) (again : Name × Span)
      (others : List (Name × Span)), d.tokens = ts →
        d.projects = (name, span) :: again :: others →
          ∃ fs, parseDescription ts = .error fs ∧ fs.reports = (again :: others).map fun p =>
            ("duplicate project declaration (project '" ++ name.val ++ "' already declared)",
              p.2) := by
  refine ⟨fun p => parseDescription_eq_ok_iff, ?_, ?_, ?_⟩
  · intro d d' hd hd'
    exact DescriptionTree.tokens_injective (hd.trans hd'.symm)
  · rintro d rfl h
    exact parseDescription_of_no_project h
  · rintro d name span again others rfl h
    exact parseDescription_of_projects h

/-- Keywords serve as names, and the number of projects decides. -/
theorem parseDescription_keywords_as_names :
    parseDescription [⟨.word "template", ⟨0, 8⟩⟩, ⟨.word "extends", ⟨9, 16⟩⟩,
        ⟨.word "extends", ⟨17, 24⟩⟩, ⟨.word "extends", ⟨25, 32⟩⟩, ⟨.lbrace, ⟨33, 34⟩⟩,
        ⟨.rbrace, ⟨34, 35⟩⟩, ⟨.word "project", ⟨36, 43⟩⟩, ⟨.str "system", ⟨44, 52⟩⟩] =
      .ok ⟨⟨"system", ⟨44, 52⟩⟩, [],
        [⟨⟨"extends", ⟨9, 16⟩⟩, some ⟨"extends", ⟨25, 32⟩⟩, []⟩], []⟩ ∧
    (∃ fs, parseDescription [⟨.word "system", ⟨0, 6⟩⟩, ⟨.word "system", ⟨7, 13⟩⟩,
        ⟨.lbrace, ⟨14, 15⟩⟩, ⟨.rbrace, ⟨15, 16⟩⟩] = .error fs ∧
      fs.reports = [("missing project declaration", ⟨16, 16⟩)]) ∧
    ∃ fs, parseDescription [⟨.word "project", ⟨0, 7⟩⟩, ⟨.word "project", ⟨8, 15⟩⟩,
        ⟨.word "project", ⟨16, 23⟩⟩, ⟨.str "P", ⟨24, 27⟩⟩] = .error fs ∧
      fs.reports = [("duplicate project declaration (project 'project' already declared)",
        ⟨16, 27⟩)] := by
  refine ⟨((parseDescription_accepts_grammar _).1 _).2 ⟨[
      .template ⟨0, 8⟩ ⟨"extends", ⟨9, 16⟩⟩ (some ⟨⟨17, 24⟩, ⟨"extends", ⟨25, 32⟩⟩⟩) ⟨33, 34⟩ []
        ⟨34, 35⟩,
      .project ⟨36, 43⟩ (.quoted ⟨"system", ⟨44, 52⟩⟩)], rfl, _, _, rfl, rfl⟩, ?_, ?_⟩
  · exact (parseDescription_accepts_grammar _).2.2.1
      [.system ⟨0, 6⟩ ⟨"system", ⟨7, 13⟩⟩ none ⟨14, 15⟩ none ⟨15, 16⟩] rfl rfl
  · exact (parseDescription_accepts_grammar _).2.2.2
      [.project ⟨0, 7⟩ (.word ⟨"project", ⟨8, 15⟩⟩), .project ⟨16, 23⟩ (.quoted ⟨"P", ⟨24, 27⟩⟩)]
      _ _ _ _ rfl rfl

end EntityForge
