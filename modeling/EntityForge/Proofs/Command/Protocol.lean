import EntityForge.Command.Run
import EntityForge.Proofs.Build.Notices
import EntityForge.Proofs.Save.Schedules
import Mathlib.Data.List.Forall2

/-! # The events of a build

A build reports notices, then the artifacts it has saved, and then one last event: how it failed, or
that it is complete. This holds in whatever order the artifacts are saved.

* `Closing`: what may follow the notices.
* `Unreadable`, `compiled`, `AllWritten`: what decides how a build ends.
* `Course`, `exists_course_build`: notices, artifacts and the last event of a build, and why it is
  the last one.
* `build_obeys_protocol`: the protocol, and what the ending and the exit code say about it. -/

namespace EntityForge

/-! ### Events about artifacts -/

/-- An event that says that an artifact is saved. -/
def Event.IsAbout (a : Artifact) (e : Event) : Prop :=
  ∃ skipped, e = .ofArtifact a skipped

/-- Whether an event is about an artifact. -/
def Event.isLog : Event → Bool
  | component .. | system .. | factory .. => true
  | _ => false

theorem Event.IsAbout.isLog {a : Artifact} {e : Event} (h : e.IsAbout a) : e.isLog = true := by
  obtain ⟨skipped, rfl⟩ := h
  unfold Event.ofArtifact
  split <;> rfl

theorem isLog_of_mem {artifacts : List Artifact} {logs : List Event}
    (h : List.Forall₂ Event.IsAbout artifacts logs) : ∀ e ∈ logs, e.isLog = true := by
  induction h with
  | nil => exact nofun
  | cons ha _ ih => exact List.forall_mem_cons.2 ⟨ha.isLog, ih⟩

theorem Event.ofFailure_cases (e : BuildError) :
    (∃ m, e = .malformed m ∧ Event.ofFailure e = .malformed m) ∨ Event.ofFailure e = .failed e := by
  cases e with
  | malformed m => exact .inl ⟨m, rfl, rfl⟩
  | _ => exact .inr rfl

theorem Event.ofFailure_eq_malformed_iff {e : BuildError} {m : SourceError} :
    Event.ofFailure e = .malformed m ↔ e = .malformed m := by
  cases e <;> simp [Event.ofFailure]

theorem Reports.exists_logs {project : String} {artifacts : List Artifact} {events : List Event}
    {outcome : Except BuildError Counts} (h : Reports project artifacts events outcome) :
    ∃ joined logs, joined <+: artifacts ∧ List.Forall₂ Event.IsAbout joined logs ∧
      ((∃ counts, outcome = .ok counts ∧ joined = artifacts ∧
          events = logs ++ [.completed project]) ∨
        ∃ e, outcome = .error e ∧ events = logs ++ [.failed e]) := by
  induction h with
  | complete counts => exact ⟨[], [], List.prefix_refl _, .nil, .inl ⟨counts, rfl, rfl, rfl⟩⟩
  | fail artifacts e => exact ⟨[], [], List.nil_prefix, .nil, .inr ⟨e, rfl, rfl⟩⟩
  | @join a artifacts events outcome skipped _ ih =>
    obtain ⟨joined, logs, hjoined, hlogs, hlast⟩ := ih
    refine ⟨a :: joined, .ofArtifact a skipped :: logs, List.cons_prefix_cons.2 ⟨rfl, hjoined⟩,
      .cons ⟨skipped, rfl⟩ hlogs, ?_⟩
    rcases hlast with ⟨counts, rfl, rfl, rfl⟩ | ⟨e, rfl, rfl⟩
    · exact .inl ⟨counts, rfl, rfl, rfl⟩
    · exact .inr ⟨e, rfl, rfl⟩

/-! ### Compiling a source text -/

section Source
variable {config : Config} {source : String}

theorem outcome_compileSource_eq_malformed_iff {e : SourceError} :
    (compileSource config source).outcome = .error (.malformed e) ↔
      readProgram source = .error e := by
  rcases compileSource_cases config source with ⟨m, hread, h⟩ | ⟨p, m, hread, hcompile, h, -⟩ |
    ⟨p, output, hread, hcompile, h⟩
  · rw [h, hread]
    simp
  · rw [h, hread]
    have hm : m ≠ .malformed e := fun hm => (onlyNotices_compile config p).outcome e (hm ▸ hcompile)
    simpa using hm
  · rw [h, hread, hcompile]
    simp

theorem compileSource_of_error {e : BuildError}
    (h : (compileSource config source).outcome = .error e) : ∃ notices,
      (compileSource config source).events = notices ++ [.ofFailure e] ∧
      (∀ n ∈ notices, n.isNotice = true) ∧ ∀ m, e = .malformed m → notices = [] := by
  rcases compileSource_cases config source with ⟨m, -, hrun⟩ | ⟨p, m, -, hcompile, hm, hrun⟩ |
    ⟨p, output, -, hcompile, hrun⟩
  · rw [hrun] at h
    cases h
    exact ⟨[], by rw [hrun]; rfl, nofun, fun _ _ => rfl⟩
  · rw [hm] at h
    cases h
    have hnotices := onlyNotices_compile config p
    refine ⟨_, hrun, hnotices.events, ?_⟩
    rintro m rfl
    exact absurd hcompile (hnotices.outcome m)
  · rw [hrun, hcompile] at h
    cases h

theorem compileSource_of_ok {output : Output}
    (h : (compileSource config source).outcome = .ok output) :
    (∀ n ∈ (compileSource config source).events, n.isNotice = true) ∧
      (compileSource config source).events.filterMap Event.rejected?
        = output.rejected.map .emptyRequirement := by
  rcases compileSource_cases config source with ⟨m, -, hrun⟩ | ⟨p, m, -, -, hm, -⟩ |
    ⟨p, other, -, -, hrun⟩
  · rw [hrun] at h
    cases h
  · rw [hm] at h
    cases h
  · rw [hrun] at h ⊢
    exact ⟨(onlyNotices_compile config p).events, rejections_compile h⟩

end Source

namespace Command

/-- **What may follow the notices of a build:** malformed source; or some artifacts, each at most
once, and a failure; or all artifacts, each once, and the completion. -/
inductive Closing (artifacts : List Artifact) : List Event → Prop
  | malformed (e : SourceError) : Closing artifacts [.malformed e]
  | failed {joined : List Artifact} {logs : List Event} (hjoined : joined.Subperm artifacts)
      (hlogs : List.Forall₂ Event.IsAbout joined logs) (e : BuildError) :
      Closing artifacts (logs ++ [.failed e])
  | completed {joined : List Artifact} {logs : List Event} (hjoined : joined.Perm artifacts)
      (hlogs : List.Forall₂ Event.IsAbout joined logs) (project : String) :
      Closing artifacts (logs ++ [.completed project])

/-- Events that end with the completion and hold no rejection. -/
def EndsWell (events : List Event) : Prop :=
  (∃ project, events.getLast? = some (.completed project)) ∧ ∀ e, .rejected e ∉ events

/-! ### What decides how a build ends -/

/-- **The source of a request is malformed:** its includes cannot be expanded, or the text cannot be
read as a program. -/
def Unreadable (request : Request) (store : Store) (e : SourceError) : Prop :=
  readSource store request.source = .error (.malformed e) ∨
    ∃ source, readSource store request.source = .ok source ∧ readProgram source = .error e

/-- **What the source of a request compiles to.** -/
def compiled (request : Request) (store : Store) : Except BuildError Output :=
  match readSource store request.source with
  | .error e => .error e
  | .ok source => (compileSource request.config source).outcome

/-- The artifacts that a request asks for. -/
def artifactsOf (request : Request) (store : Store) : List Artifact :=
  match compiled request store with
  | .error _ => []
  | .ok output => output.artifacts

/-- **Every write succeeds:** the directories can be made, and then the tasks of all artifacts
succeed in the order in which they run, in spite of their faults. -/
def AllWritten (request : Request) (order : Schedule) (store : Store) (faults : Faults)
    (output : Output) : Prop :=
  ∃ made written,
    makeEach store [joinPath request.output "components", joinPath request.output "systems"] faults
      = (made, .ok ()) ∧
    writeAll request.output request.config.overwrite made (output.tasks faults order.writes)
      = .ok written

theorem compiled_eq_malformed_iff {request : Request} {store : Store} {e : SourceError} :
    compiled request store = .error (.malformed e) ↔ Unreadable request store e := by
  unfold compiled Unreadable
  rcases readSource store request.source with m | source
  · simp
  · simp [outcome_compileSource_eq_malformed_iff]

/-! ### The course of a build -/

/-- **The last event of a build and its ending,** after some notices and the events of the artifacts
that were joined. -/
inductive Conclusion (request : Request) (schedule : ℕ → Schedule) (store : Store)
    (faults : Faults) (notices : List Event) : List Artifact → Event → Ending → Prop
  | stopped {e : BuildError} {ending : Ending} (hcompiled : compiled request store = .error e)
      (halone : ∀ m, e = .malformed m → notices = []) (hending : ending ≠ .succeeded) :
      Conclusion request schedule store faults notices [] (.ofFailure e) ending
  | failed {output : Output} {joined : List Artifact} {e : BuildError} {ending : Ending}
      (hcompiled : compiled request store = .ok output)
      (hwritten : ¬ AllWritten request (schedule output.artifacts.length) store faults output)
      (hjoined : joined.Subperm output.artifacts) (hending : ending ≠ .succeeded) :
      Conclusion request schedule store faults notices joined (.failed e) ending
  | completed {output : Output} {joined : List Artifact} {ending : Ending}
      (hcompiled : compiled request store = .ok output)
      (hwritten : AllWritten request (schedule output.artifacts.length) store faults output)
      (hjoined : joined.Perm output.artifacts)
      (hending : ending = .succeeded ↔ ∀ e, .rejected e ∉ notices) :
      Conclusion request schedule store faults notices joined (.completed output.projectName) ending

theorem Conclusion.rejected?_last {request : Request} {schedule : ℕ → Schedule} {store : Store}
    {faults : Faults} {notices : List Event} {joined : List Artifact} {last : Event}
    {ending : Ending} (h : Conclusion request schedule store faults notices joined last ending) :
    last.rejected? = none := by
  cases h with
  | @stopped e => cases e <;> rfl
  | failed => rfl
  | completed => rfl

/-- **The course of a build:** notices, the artifacts that were joined, and the last event. -/
structure Course (request : Request) (schedule : ℕ → Schedule) (store : Store) (faults : Faults)
    (built : Built) (notices : List Event) (joined : List Artifact) (logs : List Event)
    (last : Event) : Prop where
  events_eq : built.events = notices ++ logs ++ [last]
  isNotice : ∀ e ∈ notices, e.isNotice = true
  isAbout : List.Forall₂ Event.IsAbout joined logs
  conclusion : Conclusion request schedule store faults notices joined last built.ending

namespace Course

variable {request : Request} {schedule : ℕ → Schedule} {store : Store} {faults : Faults}
  {built : Built} {notices : List Event} {joined : List Artifact} {logs : List Event} {last : Event}
  (h : Course request schedule store faults built notices joined logs last)
include h

theorem mem_iff_eq_last {e : Event} (hnotice : e.isNotice = false) (hlog : e.isLog = false) :
    e ∈ built.events ↔ e = last := by
  have hnotices : e ∉ notices := fun he => by simp [h.isNotice e he] at hnotice
  have hlogs : e ∉ logs := fun he => by simp [isLog_of_mem h.isAbout e he] at hlog
  rw [h.events_eq]
  simp [hnotices, hlogs]

theorem rejected_mem_iff {e : BuildError} : .rejected e ∈ built.events ↔ .rejected e ∈ notices := by
  have hlogs : .rejected e ∉ logs := fun he => nomatch isLog_of_mem h.isAbout _ he
  have hlast : .rejected e ≠ last := fun he => nomatch he ▸ h.conclusion.rejected?_last
  rw [h.events_eq]
  simp [hlogs, hlast]

theorem closing : Closing (artifactsOf request store) (logs ++ [last]) := by
  have hlogs := h.isAbout
  unfold artifactsOf
  cases h.conclusion with
  | @stopped e _ hcompiled =>
    cases hlogs
    rw [hcompiled]
    rcases Event.ofFailure_cases e with ⟨m, -, hm⟩ | hm
    · rw [hm]
      exact .malformed m
    · rw [hm]
      exact .failed (.refl []) .nil e
  | failed hcompiled _ hjoined =>
    rw [hcompiled]
    exact .failed hjoined hlogs _
  | completed hcompiled _ hjoined =>
    rw [hcompiled]
    exact .completed hjoined hlogs _

theorem malformed_mem_iff {e : SourceError} :
    .malformed e ∈ built.events ↔ Unreadable request store e := by
  rw [h.mem_iff_eq_last rfl rfl, ← compiled_eq_malformed_iff]
  cases h.conclusion with
  | @stopped m _ hcompiled =>
    rw [hcompiled, eq_comm, Event.ofFailure_eq_malformed_iff]
    simp
  | failed hcompiled => simp [hcompiled]
  | completed hcompiled => simp [hcompiled]

theorem events_of_malformed {e : SourceError} (he : .malformed e ∈ built.events) :
    built.events = [.malformed e] := by
  have hlast := (h.mem_iff_eq_last rfl rfl).1 he
  have hlogs := h.isAbout
  rw [h.events_eq]
  cases h.conclusion with
  | stopped _ halone =>
    cases hlogs
    rw [halone e (Event.ofFailure_eq_malformed_iff.1 hlast.symm), ← hlast]
    rfl
  | failed => cases hlast
  | completed => cases hlast

theorem completed_mem_iff {project : String} : .completed project ∈ built.events ↔
    ∃ output, compiled request store = .ok output ∧ output.projectName = project ∧
      AllWritten request (schedule output.artifacts.length) store faults output := by
  rw [h.mem_iff_eq_last rfl rfl]
  cases h.conclusion with
  | @stopped e _ hcompiled =>
    rw [hcompiled]
    rcases Event.ofFailure_cases e with ⟨m, -, hm⟩ | hm <;> simp [hm]
  | failed hcompiled hwritten =>
    rw [hcompiled]
    simp [hwritten]
  | completed hcompiled hwritten =>
    rw [hcompiled]
    simp [hwritten, eq_comm]

/-- **A build succeeds** exactly if its events end well. -/
theorem succeeded_iff : built.ending = .succeeded ↔ EndsWell built.events := by
  have hlast : built.events.getLast? = some last := by rw [h.events_eq, List.getLast?_concat]
  simp only [EndsWell, hlast, h.rejected_mem_iff]
  cases h.conclusion with
  | @stopped e _ _ _ hending =>
    rcases Event.ofFailure_cases e with ⟨m, -, hm⟩ | hm <;> simp [hm, hending]
  | failed _ _ _ hending => simp [hending]
  | completed _ _ _ hending => simp [hending]

end Course

theorem endingOf_eq_succeeded_iff {output : Output} {outcome : Except BuildError Counts} :
    endingOf output outcome = .succeeded ↔
      (∃ counts, outcome = .ok counts) ∧ output.rejected = [] := by
  unfold endingOf
  rcases outcome with e | counts
  · simp
  · by_cases h : output.rejected = [] <;> simp [Output.allAccepted, h]

theorem exists_course_saved {request : Request} {schedule : ℕ → Schedule}
    (hschedule : ∀ n, (schedule n).Valid n) {store : Store} {faults : Faults} {output : Output}
    (hcompiled : compiled request store = .ok output) {notices : List Event}
    (hnotices : ∀ e ∈ notices, e.isNotice = true)
    (hrejected : output.rejected = [] ↔ ∀ e, .rejected e ∉ notices) {saved : Saved}
    (hsaved : saved = save output request.output request.config.overwrite
      (schedule output.artifacts.length) store faults) :
    ∃ joined logs last, Course request schedule store faults
      ⟨notices ++ saved.events, endingOf output saved.outcome, saved.store⟩
      notices joined logs last := by
  have hvalid := hschedule output.artifacts.length
  have hall := Output.pick_perm hvalid.joins
  have hwritten : (∃ counts, saved.outcome = .ok counts) ↔
      AllWritten request (schedule output.artifacts.length) store faults output :=
    hsaved ▸ exists_ok_save_iff hvalid _ _ _ faults
  have hreports : Reports output.projectName _ saved.events saved.outcome :=
    hsaved ▸ reports_save hvalid _ _ _ faults
  obtain ⟨joined, logs, hjoined, hlogs, hlast⟩ := hreports.exists_logs
  refine ⟨joined, logs, ?_⟩
  rcases hlast with ⟨counts, hcounts, rfl, hevents⟩ | ⟨e, he, hevents⟩
  · refine ⟨_, by rw [hevents, List.append_assoc], hnotices, hlogs,
      .completed hcompiled (hwritten.1 ⟨counts, hcounts⟩) hall ?_⟩
    rw [endingOf_eq_succeeded_iff, hrejected, and_iff_right ⟨counts, hcounts⟩]
  · have hnone : ¬ ∃ counts, saved.outcome = .ok counts := by
      rw [he]
      exact fun ⟨_, h⟩ => nomatch h
    refine ⟨_, by rw [hevents, List.append_assoc], hnotices, hlogs,
      .failed hcompiled (mt hwritten.2 hnone) (hjoined.sublist.subperm.trans hall.subperm) ?_⟩
    exact fun h => hnone (endingOf_eq_succeeded_iff.1 h).1

/-- **Every build has a course.** -/
theorem exists_course_build {request : Request} {schedule : ℕ → Schedule}
    (hschedule : ∀ n, (schedule n).Valid n) (store : Store) (faults : Faults) :
    ∃ notices joined logs last, Course request schedule store faults
      (build request schedule store faults) notices joined logs last := by
  unfold build
  rcases hsource : readSource store request.source with e | source
  · have hcompiled : compiled request store = .error e := by rw [compiled, hsource]
    exact ⟨[], [], [], .ofFailure e, rfl, nofun, .nil, .stopped hcompiled (fun _ _ => rfl) nofun⟩
  · have hcompiled : compiled request store = (compileSource request.config source).outcome := by
      rw [compiled, hsource]
    dsimp only
    rcases houtcome : (compileSource request.config source).outcome with e | output
    · rw [houtcome] at hcompiled
      obtain ⟨notices, hevents, hnotices, halone⟩ := compileSource_of_error houtcome
      exact ⟨notices, [], [], .ofFailure e, by simp [hevents], hnotices, .nil,
        .stopped hcompiled halone nofun⟩
    · rw [houtcome] at hcompiled
      obtain ⟨hnotices, hrejections⟩ := compileSource_of_ok houtcome
      have hrejected : output.rejected = [] ↔
          ∀ e, .rejected e ∉ (compileSource request.config source).events := by
        simp only [rejected_mem_iff, hrejections]
        rw [← List.eq_nil_iff_forall_not_mem, List.map_eq_nil_iff]
      exact ⟨_, exists_course_saved hschedule hcompiled hnotices hrejected rfl⟩

theorem exitCode_execute_eq_zero_iff {args : List String} {request : Request}
    (hargs : Action.ofArguments args = .ok (.build request)) (store : Store)
    (schedule : ℕ → Schedule) (faults : Faults) :
    (execute args store schedule faults).exitCode = 0 ↔
      (build request schedule store faults).ending = .succeeded := by
  simp only [execute, hargs]
  cases (build request schedule store faults).ending <;> simp [Ending.message?]

/-- **Every build obeys the protocol of its events,** in whatever order its artifacts are written
and joined, and whatever faults the disk has. Notices come first, then what may close a build.
Malformed source is reported exactly if the source cannot be expanded or read, and nothing else is
reported then. The completion is reported exactly if the source compiles and every write succeeds.
The build succeeds exactly if its events end with the completion and no system was rejected, and so
says the exit code. -/
theorem build_obeys_protocol (request : Request) (schedule : ℕ → Schedule)
    (hschedule : ∀ n, (schedule n).Valid n) (store : Store) (faults : Faults) :
    (∃ notices closing, (build request schedule store faults).events = notices ++ closing ∧
      (∀ e ∈ notices, e.isNotice = true) ∧ Closing (artifactsOf request store) closing) ∧
    (∀ e, .malformed e ∈ (build request schedule store faults).events ↔
      Unreadable request store e) ∧
    (∀ e, .malformed e ∈ (build request schedule store faults).events →
      (build request schedule store faults).events = [.malformed e]) ∧
    (∀ project, .completed project ∈ (build request schedule store faults).events ↔
      ∃ output, compiled request store = .ok output ∧ output.projectName = project ∧
        AllWritten request (schedule output.artifacts.length) store faults output) ∧
    ((build request schedule store faults).ending = .succeeded ↔
      EndsWell (build request schedule store faults).events) ∧
    ∀ args, Action.ofArguments args = .ok (.build request) →
      ((execute args store schedule faults).exitCode = 0 ↔
        EndsWell (build request schedule store faults).events) := by
  obtain ⟨notices, joined, logs, last, h⟩ := exists_course_build hschedule store faults
  refine ⟨⟨notices, logs ++ [last], ?_, h.isNotice, h.closing⟩, fun e => h.malformed_mem_iff,
    fun e => h.events_of_malformed, fun project => h.completed_mem_iff, h.succeeded_iff, ?_⟩
  · rw [h.events_eq, List.append_assoc]
  · intro args hargs
    rw [exitCode_execute_eq_zero_iff hargs, h.succeeded_iff]

/-- Two sources: in one of them a system requires nothing, and the other is malformed. -/
def patrolStore : Store where
  entries := .ofList
    [(["patrol.cv"], .file (.text ("project Patrol\ncomponent Body \x7b x: 1 \x7d\n"
      ++ "system Idle \x7b\x7d\nsystem Move \x7b components: [Body] \x7d\n"))),
      (["broken.cv"], .file (.text "project Patrol\ncomponent 1\n"))]

/-- The request to build the source of the given name. -/
def patrolRequest (source : String) : Request where
  source := source
  output := "out"
  config := {}
  format := .transcript

/-- A disk on which the third artifact cannot be opened. -/
def lockedDisk : Faults where
  write i := if i = 2 then some (.unopened (.other "Permission denied (os error 13)")
    (by decide))
    else none

theorem build_obeys_protocol_patrol :
    (∀ n, (Schedule.inOrder n).Valid n) ∧
    (.malformed ⟨⟨2, 11⟩, ⟨25, 26⟩, "found '1' expected identifier"⟩
        ∈ (build (patrolRequest "broken.cv") Schedule.inOrder patrolStore).events ∧
      (build (patrolRequest "broken.cv") Schedule.inOrder patrolStore).events
        = [.malformed ⟨⟨2, 11⟩, ⟨25, 26⟩, "found '1' expected identifier"⟩]) ∧
    (.completed "Patrol"
        ∈ (build (patrolRequest "patrol.cv") Schedule.inOrder patrolStore).events ∧
      ∃ output, compiled (patrolRequest "patrol.cv") patrolStore = .ok output ∧
        output.projectName = "Patrol" ∧
        AllWritten (patrolRequest "patrol.cv") (Schedule.inOrder output.artifacts.length)
          patrolStore {} output ∧
        ¬ AllWritten (patrolRequest "patrol.cv") (Schedule.inOrder output.artifacts.length)
          patrolStore lockedDisk output) ∧
    (build (patrolRequest "patrol.cv") Schedule.inOrder patrolStore lockedDisk).events.getLast?
      = some (.failed (.inaccessible "out/factory.js"
        (.other "Permission denied (os error 13)"))) ∧
    Action.ofArguments ["-s", "patrol.cv", "-o", "out"] = .ok (.build (patrolRequest "patrol.cv")) ∧
    (execute ["-s", "patrol.cv", "-o", "out"] patrolStore).exitCode = 1 ∧
    ¬ EndsWell (build (patrolRequest "patrol.cv") Schedule.inOrder patrolStore).events := by
  have hbroken : .malformed ⟨⟨2, 11⟩, ⟨25, 26⟩, "found '1' expected identifier"⟩
      ∈ (build (patrolRequest "broken.cv") Schedule.inOrder patrolStore).events := by
    decide +kernel
  have hcomplete : .completed "Patrol"
      ∈ (build (patrolRequest "patrol.cv") Schedule.inOrder patrolStore).events := by
    decide +kernel
  have hlocked : .completed "Patrol"
      ∉ (build (patrolRequest "patrol.cv") Schedule.inOrder patrolStore lockedDisk).events := by
    decide +kernel
  have hfailed : (build (patrolRequest "patrol.cv") Schedule.inOrder patrolStore
      lockedDisk).events.getLast? = some (.failed (.inaccessible "out/factory.js"
        (.other "Permission denied (os error 13)"))) := by
    decide +kernel
  have hargs : Action.ofArguments ["-s", "patrol.cv", "-o", "out"]
      = .ok (.build (patrolRequest "patrol.cv")) := by
    rfl
  have hcode : (execute ["-s", "patrol.cv", "-o", "out"] patrolStore).exitCode = 1 := by
    decide +kernel
  obtain ⟨-, -, halone, -⟩ := build_obeys_protocol (patrolRequest "broken.cv") Schedule.inOrder
    Schedule.valid_inOrder patrolStore {}
  obtain ⟨-, -, -, hcompleted, -, hzero⟩ := build_obeys_protocol (patrolRequest "patrol.cv")
    Schedule.inOrder Schedule.valid_inOrder patrolStore {}
  obtain ⟨-, -, -, hcompleted', -⟩ := build_obeys_protocol (patrolRequest "patrol.cv")
    Schedule.inOrder Schedule.valid_inOrder patrolStore lockedDisk
  obtain ⟨output, houtput, hname, hwritten⟩ := (hcompleted _).1 hcomplete
  refine ⟨Schedule.valid_inOrder, ⟨hbroken, halone _ hbroken⟩,
    ⟨hcomplete, output, houtput, hname, hwritten, fun hall => ?_⟩, hfailed, hargs, hcode, ?_⟩
  · exact hlocked ((hcompleted' _).2 ⟨output, houtput, hname, hall⟩)
  · rw [← hzero _ hargs, hcode]
    exact Nat.one_ne_zero

end Command

end EntityForge
