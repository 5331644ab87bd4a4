import CulpritFinding.Proofs.Analysis.Frames
import CulpritFinding.Proofs.TryJob.Scheduling

namespace CulpritFinding

structure VerdictRecord where
  tryJobPhase : TryJobPhase
  result : Option AnalysisResult
  culprits : List Culprit
  flaky : Bool
  autoActionAllowed : Bool
  deriving DecidableEq

namespace Analysis

def verdictRecord (a : Analysis) : VerdictRecord :=
  ⟨a.tryJobPhase, a.result, a.culprits, a.flaky, a.autoActionAllowed⟩

theorem withGroup_verdictRecord (a : Analysis) (membership : Option GroupMembership) :
    (a.withGroup membership).verdictRecord = a.verdictRecord := by
  cases membership <;> rfl

theorem withGroup_key (a : Analysis) (membership : Option GroupMembership) :
    (a.withGroup membership).key = a.key := by
  cases membership <;> rfl

theorem hasVerdict_congr {a b : Analysis} (same : a.tryJobPhase = b.tryJobPhase) :
    a.hasVerdict = b.hasVerdict := by
  unfold hasVerdict
  rw [same]

theorem begun_key (key : FailureKey) (previous : Option Analysis) (now : Instant) :
    (begun key previous now).key = key := by
  unfold begun
  cases previous with
  | none => rfl
  | some p => cases known : p.hasVerdict <;> simp only [known] <;> rfl

theorem begun_of_hasVerdict {p : Analysis} (known : p.hasVerdict = true) (key : FailureKey)
    (now : Instant) : (begun key (some p) now).verdictRecord = p.verdictRecord := by
  simp only [begun, known, if_true]
  rfl

theorem begun_of_open {previous : Option Analysis}
    (unknown : ∀ p ∈ previous, p.hasVerdict = false) (key : FailureKey) (now : Instant) :
    begun key previous now = { new key now with status := .running } := by
  cases previous with
  | none => rfl
  | some p =>
    simp only [begun, unknown p rfl]
    rfl

theorem begun_tryJobPhase {key : FailureKey} {previous : Option Analysis} {now : Instant}
    (undecided : (begun key previous now).hasVerdict = false) :
    (begun key previous now).tryJobPhase = .notNeeded := by
  cases previous with
  | none => rfl
  | some p =>
    cases known : p.hasVerdict with
    | false => rw [begun_of_open (by rintro q ⟨⟩; exact known)]; rfl
    | true =>
      have kept := congrArg VerdictRecord.tryJobPhase (begun_of_hasVerdict known key now)
      rw [hasVerdict_congr kept, known] at undecided
      cases undecided

end Analysis

namespace AnalysisRequest

def begun (request : AnalysisRequest) (s : EngineState) : Analysis :=
  .begun request.key (s.store.analysis? request.key) request.start

def steps (request : AnalysisRequest) (services : Services) (build : Build) : List FailedStep :=
  initialFailedSteps services.config build (request.key.kind.handlesStep services.config)

def findsNothing (request : AnalysisRequest) (services : Services) : Bool :=
  match buildOnRecord services.history request.key.build with
  | .ok build => (request.steps services build).isEmpty
  | .error _ => false

end AnalysisRequest

open EngineState

variable {services : Services} {request : AnalysisRequest} {s s' : EngineState} {a : Analysis}

theorem AnalysisRequest.begun_hasVerdict_iff :
    (request.begun s).hasVerdict = true ↔
      ∃ previous ∈ s.store.analysis? request.key, previous.hasVerdict = true := by
  unfold begun
  constructor
  · intro known
    cases analyzed : s.store.analysis? request.key with
    | none =>
      rw [analyzed] at known
      cases known
    | some previous =>
      refine ⟨previous, rfl, ?_⟩
      cases undecided : previous.hasVerdict with
      | true => rfl
      | false =>
        rw [analyzed, Analysis.begun_of_open (by rintro p ⟨⟩; exact undecided)] at known
        cases known
  · rintro ⟨previous, analyzed, known⟩
    have kept := congrArg VerdictRecord.tryJobPhase
      (Analysis.begun_of_hasVerdict known request.key request.start)
    rw [Option.mem_def.mp analyzed, Analysis.hasVerdict_congr kept, known]

theorem EngineState.Saves.keyed (saved : s.Saves a s') (keyed : s.store.Keyed) :
    s'.store.Keyed where
  analysis := by
    intro key b stored
    rw [saved.analysis?] at stored
    split at stored
    · cases stored
      assumption
    · exact keyed.analysis stored
  tryJob := by
    intro key job stored
    rw [saved.tryJob?] at stored
    exact keyed.tryJob stored

theorem EngineState.SameRecords.keyed (same : s.SameRecords s') (keyed : s.store.Keyed) :
    s'.store.Keyed where
  analysis := by
    intro key b stored
    rw [same.analysis?] at stored
    exact keyed.analysis stored
  tryJob := by
    intro key job stored
    rw [same.tryJob?] at stored
    exact keyed.tryJob stored

theorem beginAnalysis_runOn (works : services.AnalysesWork) (request : AnalysisRequest)
    (s : EngineState) :
    (beginAnalysis services request).runOn s =
      (.ok (request.begun s), s.withAnalysis (request.begun s)) := by
  unfold beginAnalysis Engine.analysis?
  rw [Engine.runOn_bind_ok _ (Engine.runOn_read works.get ..),
    Engine.runOn_bind_ok _ (Engine.runOn_saveAnalysis works ..)]
  rfl

theorem abortAnalysis_runOn {α : Type} (works : services.storeFault .updateAnalysis = none)
    (e : AnalysisError) (now : Instant) (present : (s.store.analysis? a.key).isSome) :
    ∃ after, (abortAnalysis services a e now : Engine α).runOn s = (.error e, after) ∧
      s.Saves (a.fail e.message now) after := by
  have saved : (tryCatch (Engine.updateAnalysis services (a.fail e.message now))
      fun _ => pure ()).runOn s = (.ok (), s.withAnalysis (a.fail e.message now)) := by
    rw [Engine.runOn_tryCatch,
      Engine.runOn_updateAnalysis works (a.fail e.message now) present]
  refine ⟨_, ?_, (s.saves_withAnalysis _).keep (sameRecords_counting _
    (.analysisFinished a.key.kind.text AnalysisStatus.error.text))⟩
  unfold abortAnalysis
  rw [Engine.runOn_bind_ok _ saved, Engine.runOn_bind_ok _ (Engine.runOn_record ..),
    Engine.runOn_throw]

theorem orAbort_error {α : Type} {e : AnalysisError} (inRange : e ≠ .outOfRange)
    (services : Services) (a : Analysis) (now : Instant) :
    (orAbort services a now (.error e) : Engine α) = abortAnalysis services a e now := by
  unfold orAbort
  split
  · rename_i answered
    cases answered
  · rename_i stopped
    exact absurd (Except.error.inj stopped) inRange
  · rename_i answered
    cases answered
    rfl

theorem buildOnRecord_error {history : BuildHistory} {key : BuildKey} {e : AnalysisError}
    (unrecorded : buildOnRecord history key = .error e) :
    e = .missingBuildData key ∨ ∃ cause, e = .provider cause := by
  unfold buildOnRecord at unrecorded
  split at unrecorded
  · cases unrecorded
  · cases unrecorded
    exact .inl rfl
  · cases unrecorded
    exact .inr ⟨_, rfl⟩

theorem finishAnalysis_runOn (works : services.storeFault .updateAnalysis = none) (outcome : String)
    (present : (s.store.analysis? a.key).isSome) :
    ∃ after, (finishAnalysis services a outcome).runOn s = (.ok (), after) ∧ s.Saves a after ∧
      after.store.groups = s.store.groups := by
  refine ⟨_, ?_, (s.saves_withAnalysis a).keep (sameRecords_counting _
    (.analysisFinished a.key.kind.text outcome)), rfl⟩
  unfold finishAnalysis
  rw [Engine.runOn_bind_ok _ (Engine.runOn_updateAnalysis works a present), Engine.runOn_record]

/-- How the analysis of a failure ends: what was saved last, and what was done about a try job. -/
inductive AnalysisEnding (services : Services) (request : AnalysisRequest) (s : EngineState) :
    Except AnalysisError AnalysisOutcome → EngineState → Prop
  | nothingFailed {a : Analysis} {after : EngineState}
      (nothing : request.findsNothing services = true) (key : a.key = request.key)
      (saved : s.Saves a after)
      (record : a.verdictRecord =
        { (request.begun s).verdictRecord with result := some .notFound }) :
      AnalysisEnding services request s (.ok ⟨a, none⟩) after
  | aborted {a : Analysis} {after : EngineState} {e : AnalysisError}
      (something : request.findsNothing services = false) (key : a.key = request.key)
      (saved : s.Saves a after) (record : a.verdictRecord = (request.begun s).verdictRecord) :
      AnalysisEnding services request s (.error e) after
  | verdictKnown {a : Analysis} {after : EngineState}
      (something : request.findsNothing services = false) (key : a.key = request.key)
      (known : (request.begun s).hasVerdict = true)
      (saved : s.Saves a after) (record : a.verdictRecord = (request.begun s).verdictRecord) :
      AnalysisEnding services request s (.ok ⟨a, s.store.tryJob? request.key⟩) after
  | notBisected {a : Analysis} {after : EngineState}
      (something : request.findsNothing services = false) (key : a.key = request.key)
      (undecided : (request.begun s).hasVerdict = false)
      (saved : s.Saves a after) (phase : a.tryJobPhase = .notNeeded) :
      AnalysisEnding services request s (.ok ⟨a, none⟩) after
  /-- The claim timeout is too long, or the try job was attempted too often. -/
  | outOfRange {a : Analysis} {after : EngineState}
      (something : request.findsNothing services = false) (key : a.key = request.key)
      (undecided : (request.begun s).hasVerdict = false)
      (saved : s.Saves a after) (phase : a.tryJobPhase = .notNeeded) :
      AnalysisEnding services request s (.error .outOfRange) after
  | scheduled {a : Analysis} {middle after : EngineState} {range : TryJobRange} {job : TryJob}
      (something : request.findsNothing services = false) (key : a.key = request.key)
      (undecided : (request.begun s).hasVerdict = false)
      (saved : s.Saves a middle) (phase : a.tryJobPhase = .notNeeded)
      (scheduling : Scheduling services request.key range a.suspects request.start middle
        (.ok job) after) :
      AnalysisEnding services request s
        (.ok ⟨(a.after (.evaluated true)).withTryJob job, some job⟩)
        (after.withAnalysis ((a.after (.evaluated true)).withTryJob job))
  | refused {a : Analysis} {middle after : EngineState} {range : TryJobRange} {e : SchedulerError}
      (something : request.findsNothing services = false) (key : a.key = request.key)
      (undecided : (request.begun s).hasVerdict = false)
      (saved : s.Saves a middle) (phase : a.tryJobPhase = .notNeeded)
      (scheduling : Scheduling services request.key range a.suspects request.start middle
        (.error (.tryJobScheduling request.key.text e)) after) :
      AnalysisEnding services request s (.error (.tryJobScheduling request.key.text e))
        (after.withAnalysis ((a.after (.evaluated true)).after
          (.failed (AnalysisError.tryJobScheduling request.key.text e).message)))

theorem Analysis.withTryJob_key (a : Analysis) (job : TryJob) : (a.withTryJob job).key = a.key := by
  unfold Analysis.withTryJob
  cases job.tryJobIds.getLast? <;> cases running : decide (job.status = .running) <;>
    simp only [decide_eq_true_eq, decide_eq_false_iff_not] at running <;>
    simp only [running, if_true, if_false] <;> rfl

theorem Scheduling.sameAnalyses {key : FailureKey} {range : TryJobRange} {suspects : List Suspect}
    {now : Instant} {r : Except AnalysisError TryJob}
    (scheduling : Scheduling services key range suspects now s r s') :
    s'.store.analyses = s.store.analyses := by
  cases scheduling <;> rfl

theorem Scheduling.sameGroups {key : FailureKey} {range : TryJobRange} {suspects : List Suspect}
    {now : Instant} {r : Except AnalysisError TryJob}
    (scheduling : Scheduling services key range suspects now s r s') :
    s'.store.groups = s.store.groups := by
  cases scheduling <;> rfl

theorem Scheduling.error_cases (works : services.StoreWorks) {key : FailureKey}
    {range : TryJobRange} {suspects : List Suspect} {now : Instant} {e : AnalysisError}
    (scheduling : Scheduling services key range suspects now s (.error e) s') :
    (e = .outOfRange ∧ CannotClaim services s.store key now ∧ s' = s) ∨
      ∃ cause, e = .tryJobScheduling key.text cause := by
  cases scheduling with
  | outOfRange blocked => exact .inl ⟨rfl, blocked, rfl⟩
  | unclaimed fault => cases (works _).symm.trans fault
  | unrecorded fault => cases (works _).symm.trans fault
  | refused => exact .inr ⟨_, rfl⟩

theorem Scheduling.timed (works : services.StoreWorks) {key : FailureKey} {range : TryJobRange}
    {suspects : List Suspect} {now : Instant} {r : Except AnalysisError TryJob}
    (scheduling : Scheduling services key range suspects now s r s')
    (scheduled : r ≠ .error .outOfRange) : services.config.claimTimeout?.isSome := by
  cases scheduling with
  | outOfRange => exact absurd rfl scheduled
  | unclaimed fault => cases (works _).symm.trans fault
  | inFlight timeout => exact timeout ▸ rfl
  | unrecorded fault timeout => exact timeout ▸ rfl
  | accepted timeout => exact timeout ▸ rfl
  | refused timeout => exact timeout ▸ rfl

inductive Starting (services : Services) (request : AnalysisRequest) (a : Analysis)
    (range : TryJobRange) (s : EngineState) :
    Except AnalysisError AnalysisOutcome → EngineState → Prop
  | scheduled {job : TryJob} {after : EngineState}
      (scheduling : Scheduling services request.key range a.suspects request.start s (.ok job)
        after) :
      Starting services request a range s (.ok ⟨a.withTryJob job, some job⟩)
        (after.withAnalysis (a.withTryJob job))
  | outOfRange (blocked : CannotClaim services s.store request.key request.start) :
      Starting services request a range s (.error .outOfRange) s
  | refused {e : SchedulerError} {after : EngineState}
      (scheduling : Scheduling services request.key range a.suspects request.start s
        (.error (.tryJobScheduling request.key.text e)) after) :
      Starting services request a range s (.error (.tryJobScheduling request.key.text e))
        (after.withAnalysis (a.after
          (.failed (AnalysisError.tryJobScheduling request.key.text e).message)))

theorem startTryJob_runOn (works : services.StoreWorks) (keyed : s.store.Keyed)
    (key : a.key = request.key) (present : (s.store.analysis? request.key).isSome)
    (range : TryJobRange) :
    let run := (startTryJob services request a range).runOn s
    Starting services request a range s run.1 run.2 := by
  have scheduling := scheduleTryJob_runOn services keyed request.key range a.suspects request.start
  unfold startTryJob
  dsimp only at scheduling ⊢
  rw [Engine.runOn_bind_ok _ (Engine.runOn_lift ..)]
  generalize (scheduleTryJob services request.key range a.suspects request.start).runOn s = run
    at scheduling ⊢
  obtain ⟨r, after⟩ := run
  have present : (after.store.analysis? request.key).isSome := by
    unfold Store.analysis?
    rw [scheduling.sameAnalyses]
    exact present
  cases r with
  | ok job =>
    have present : (after.store.analysis? (a.withTryJob job).key).isSome := by
      rw [Analysis.withTryJob_key, key]
      exact present
    dsimp only
    rw [Engine.runOn_bind_ok _ (Engine.runOn_updateAnalysis (works _) _ present),
      Engine.runOn_pure]
    exact .scheduled scheduling
  | error e =>
    rcases scheduling.error_cases works with ⟨rfl, blocked, rfl⟩ | ⟨cause, rfl⟩
    · exact .outOfRange blocked
    · dsimp only
      rw [Engine.runOn_bind_ok _ (Engine.runOn_updateAnalysis (works _) _ (key ▸ present)),
        Engine.runOn_throw]
      exact .refused scheduling

theorem verifyFailure_runOn (works : services.StoreWorks) (keyed : s'.store.Keyed)
    (something : request.findsNothing services = false) (key : a.key = request.key)
    (undecided : (request.begun s).hasVerdict = false) (saved : s.Saves a s')
    (phase : a.tryJobPhase = .notNeeded) (build : Build) (range : RegressionRange)
    (signals : FailureSignals) (membership : Option GroupMembership) :
    let run := (verifyFailure services request a build range signals membership).runOn s'
    AnalysisEnding services request s run.1 run.2 := by
  unfold verifyFailure
  have present := saved.present key
  dsimp only
  generalize stepsToBisect request.key.kind build range membership = steps
  cases nothing : steps.isEmpty with
  | true =>
    simp only [Bool.not_true, if_true]
    rw [Engine.runOn_bind_ok _ (Engine.runOn_updateAnalysis (works _) _ (key ▸ present)),
      Engine.runOn_pure]
    refine .notBisected something key undecided (saved.again (s'.saves_withAnalysis _) rfl) ?_
    unfold Analysis.after
    rw [phase]
    rfl
  | false =>
    simp only [Bool.not_false, Bool.false_eq_true, if_false]
    cases tryJobRange services.config request.key.kind build steps range.builds signals with
    | ok bisected =>
      have starting := startTryJob_runOn works keyed (a := a.after (.evaluated true)) key present
        bisected
      dsimp only at starting ⊢
      generalize (startTryJob services request (a.after (.evaluated true)) bisected).runOn s' = run
        at starting ⊢
      obtain ⟨r, after⟩ := run
      cases starting with
      | scheduled scheduling => exact .scheduled something key undecided saved phase scheduling
      | outOfRange => exact .outOfRange something key undecided saved phase
      | refused scheduling => exact .refused something key undecided saved phase scheduling
    | error e =>
      dsimp only
      rw [Engine.runOn_bind_ok _ (Engine.runOn_updateAnalysis (works _) _ (key ▸ present)),
        Engine.runOn_pure]
      refine .notBisected something key undecided (saved.again (s'.saves_withAnalysis _) rfl) ?_
      unfold Analysis.after
      rw [phase]
      rfl

theorem Analysis.complete_heuristicResult (known : a.hasVerdict = true) (now : Instant) :
    (a.complete a.heuristicResult now).verdictRecord = a.verdictRecord := by
  unfold Analysis.heuristicResult
  rw [known]
  rfl

theorem concludeSteps_verifies (works : services.storeFault .updateAnalysis = none)
    (request : AnalysisRequest) (present : (s.store.analysis? a.key).isSome)
    (undecided : a.hasVerdict = false) (build : Build)
    (range : RegressionRange) (signals : FailureSignals) (membership : Option GroupMembership) :
    let ended := a.complete a.heuristicResult request.finish
    ∃ after, s.Saves ended after ∧ after.store.groups = s.store.groups ∧
      (concludeSteps services request a build range signals membership).runOn s =
        (verifyFailure services request ended build range signals membership).runOn after := by
  obtain ⟨after, run, finished, sameGroups⟩ := finishAnalysis_runOn works
    AnalysisStatus.completed.text (a := a.complete a.heuristicResult request.finish) present
  have undecided : (a.complete a.heuristicResult request.finish).hasVerdict = false := undecided
  refine ⟨after, finished, sameGroups, ?_⟩
  unfold concludeSteps
  dsimp only
  rw [Engine.runOn_bind_ok _ run]
  simp only [undecided, Bool.false_eq_true, if_false]

theorem concludeSteps_runOn (works : services.StoreWorks)
    (keyed : (request.begun s).hasVerdict = false → s.store.Keyed)
    (something : request.findsNothing services = false) (key : a.key = request.key)
    (record : a.verdictRecord = (request.begun s).verdictRecord)
    (present : (s'.store.analysis? request.key).isSome)
    (saved : ∀ {c after}, c.key = request.key → s'.Saves c after → s.Saves c after)
    (build : Build) (range : RegressionRange) (signals : FailureSignals)
    (membership : Option GroupMembership) :
    let run := (concludeSteps services request a build range signals membership).runOn s'
    AnalysisEnding services request s run.1 run.2 := by
  have sameVerdict : a.hasVerdict = (request.begun s).hasVerdict :=
    Analysis.hasVerdict_congr (congrArg VerdictRecord.tryJobPhase record)
  have present : (s'.store.analysis? a.key).isSome := key ▸ present
  cases known : (request.begun s).hasVerdict with
  | true =>
    obtain ⟨after, run, finished, -⟩ := finishAnalysis_runOn (works _) AnalysisStatus.completed.text
      (a := a.complete a.heuristicResult request.finish) present
    have saved := saved (c := a.complete a.heuristicResult request.finish) key finished
    have shown : (a.complete a.heuristicResult request.finish).hasVerdict = true :=
      sameVerdict.trans known
    unfold concludeSteps
    dsimp only
    rw [Engine.runOn_bind_ok _ run]
    simp only [shown, if_true]
    unfold Engine.tryJob?
    rw [Engine.runOn_bind_ok _ (Engine.runOn_read (works _) ..), Engine.runOn_pure,
      saved.tryJob?]
    exact .verdictKnown something key known saved
      ((Analysis.complete_heuristicResult (sameVerdict.trans known) _).trans record)
  | false =>
    obtain ⟨after, finished, -, run⟩ := concludeSteps_verifies (works _) request present
      (sameVerdict.trans known) build range signals membership
    have saved := saved (c := a.complete a.heuristicResult request.finish) key finished
    have phase : (a.complete a.heuristicResult request.finish).tryJobPhase = .notNeeded :=
      (congrArg VerdictRecord.tryJobPhase record).trans (Analysis.begun_tryJobPhase known)
    rw [run]
    refine verifyFailure_runOn works (saved.keyed (keyed known)) something ?_ known saved phase
      build range signals membership
    exact key

section Range

variable {build : Build} {range : RegressionRange} {scored : ScoredSuspects}

theorem analyzeRange_of_found (works : services.storeFault .updateAnalysis = none)
    (present : (s.store.analysis? a.key).isSome)
    (found : findSuspects services build range (.ofLogs request.key.kind request.logs) =
      .ok scored) :
    let signals := .ofLogs request.key.kind request.logs
    let walked := { a with failedSteps := range.failedSteps }
    let ungrouped := (s.withAnalysis walked).counting
      (.suspectsFound request.key.kind.text scored.suspects.length)
    ∃ answer grouped,
      (groupFailure services request build range signals).runOn ungrouped = (answer, grouped) ∧
      s.Saves walked grouped ∧ (∀ e, answer = .error e → e = .outOfRange) ∧
      (analyzeRange services request a build range).runOn s =
        match answer with
        | .ok membership =>
          (concludeSteps services request ((walked.withSuspects scored).withGroup membership)
            build range signals membership).runOn grouped
        | .error e => (.error e, grouped) := by
  intro signals walked ungrouped
  obtain ⟨answer, grouped, run, kept, stopped⟩ :=
    groupFailure_runOn services request build range signals ungrouped
  have saved := (s.saves_withAnalysis walked).keep (sameRecords_counting _
    (.suspectsFound request.key.kind.text scored.suspects.length))
  refine ⟨answer, grouped, run, saved.keep kept, stopped, ?_⟩
  unfold analyzeRange orAbort
  dsimp only
  rw [Engine.runOn_bind_ok _ (Engine.runOn_updateAnalysis works walked present), found,
    Engine.runOn_bind_ok _ (Engine.runOn_pure ..), Engine.runOn_bind_ok _ (Engine.runOn_record ..),
    Engine.runOn_bind, run]
  cases answer <;> rfl

theorem analyzeRange_reaches (works : services.storeFault .updateAnalysis = none)
    (present : (s.store.analysis? a.key).isSome) (undecided : a.hasVerdict = false)
    (found : findSuspects services build range (.ofLogs request.key.kind request.logs) =
      .ok scored) :
    let signals := .ofLogs request.key.kind request.logs
    let run := (analyzeRange services request a build range).runOn s
    ∃ ungrouped answer grouped,
      ungrouped.store.groups = s.store.groups ∧
      (groupFailure services request build range signals).runOn ungrouped = (answer, grouped) ∧
      match answer with
      | .ok membership =>
        ∃ ended middle, ended.key = a.key ∧ ended.tryJobPhase = a.tryJobPhase ∧
          s.Saves ended middle ∧ middle.store.groups = grouped.store.groups ∧
          run = (verifyFailure services request ended build range signals membership).runOn middle
      | .error e => e = .outOfRange ∧ run = (.error e, grouped) ∧
          s.Saves { a with failedSteps := range.failedSteps } grouped := by
  intro signals run
  obtain ⟨answer, grouped, grouping, saved, stopped, ran⟩ :=
    analyzeRange_of_found works present found
  refine ⟨_, answer, grouped, by rfl, grouping, ?_⟩
  cases answer with
  | error e => exact ⟨stopped e rfl, ran, saved⟩
  | ok membership =>
    let b := ({ a with failedSteps := range.failedSteps }.withSuspects scored).withGroup membership
    have key : b.key = a.key := Analysis.withGroup_key ..
    have phase : b.tryJobPhase = a.tryJobPhase :=
      congrArg VerdictRecord.tryJobPhase (Analysis.withGroup_verdictRecord ..)
    obtain ⟨middle, finished, sameGroups, concluded⟩ := concludeSteps_verifies works request
      (saved.present key.symm) ((Analysis.hasVerdict_congr phase).trans undecided) build range
      signals membership
    exact ⟨b.complete b.heuristicResult request.finish, middle, key, phase,
      saved.again finished key, sameGroups, ran.trans concluded⟩

theorem analyzeRange_of_failed (works : services.storeFault .updateAnalysis = none)
    (present : (s.store.analysis? a.key).isSome) {e : AnalysisError}
    (failed : findSuspects services build range (.ofLogs request.key.kind request.logs) =
      .error e) :
    let walked := { a with failedSteps := range.failedSteps }
    ∃ b after, (analyzeRange services request a build range).runOn s = (.error e, after) ∧
      (if e = .outOfRange then b = walked else b = walked.fail e.message request.finish) ∧
      s.Saves b after := by
  intro walked
  have saved := s.saves_withAnalysis walked
  have begun := Engine.runOn_updateAnalysis works walked present
  unfold analyzeRange
  dsimp only
  rw [Engine.runOn_bind_ok _ begun, failed]
  by_cases stopped : e = .outOfRange
  · subst stopped
    refine ⟨_, _, ?_, if_pos rfl ▸ rfl, saved⟩
    exact Engine.runOn_bind_error _ (Engine.runOn_throw ..)
  · obtain ⟨after, run, failed⟩ := abortAnalysis_runOn (α := ScoredSuspects) works e request.finish
      (saved.present rfl)
    refine ⟨_, after, ?_, if_neg stopped ▸ rfl, saved.again failed rfl⟩
    rw [orAbort_error stopped]
    exact Engine.runOn_bind_error _ run

end Range

theorem analyzeSteps_runOn (works : services.StoreWorks)
    (keyed : (request.begun s).hasVerdict = false → s.store.Keyed)
    (something : request.findsNothing services = false) (key : a.key = request.key)
    (record : a.verdictRecord = (request.begun s).verdictRecord) (saved : s.Saves a s')
    (build : Build) (steps : List FailedStep) :
    let run := (analyzeSteps services request a build steps).runOn s'
    AnalysisEnding services request s run.1 run.2 := by
  unfold analyzeSteps
  cases findRegressionRange? services.history services.config build steps with
  | none => exact .aborted something key saved record
  | some range =>
    cases found : findSuspects services build range (.ofLogs request.key.kind request.logs) with
    | error e =>
      obtain ⟨b, after, run, shown, failed⟩ :=
        analyzeRange_of_failed (works _) (saved.present rfl) found
      have sameKey : b.key = a.key := by
        split at shown <;> exact shown ▸ rfl
      have sameRecord : b.verdictRecord = a.verdictRecord := by
        split at shown <;> exact shown ▸ rfl
      dsimp only
      rw [run]
      exact .aborted something (sameKey.trans key) (saved.again failed sameKey)
        (sameRecord.trans record)
    | ok scored =>
      obtain ⟨answer, grouped, -, kept, stopped, run⟩ :=
        analyzeRange_of_found (works _) (saved.present rfl) found
      have saved := saved.again kept rfl
      dsimp only
      rw [run]
      cases answer with
      | error e =>
        exact .aborted (a := { a with failedSteps := range.failedSteps }) something key saved record
      | ok membership =>
        apply concludeSteps_runOn works keyed something
        · exact (Analysis.withGroup_key ..).trans key
        · exact (Analysis.withGroup_verdictRecord ..).trans record
        · exact saved.present key
        · exact fun same after => saved.again after (same.trans key.symm)

theorem analyzeFailure_of_unrecorded (works : services.AnalysesWork) {e : AnalysisError}
    (unrecorded : buildOnRecord services.history request.key.build = .error e) (s : EngineState) :
    ∃ after, (analyzeFailure services request).runOn s = (.error e, after) ∧
      s.Saves ((request.begun s).fail e.message request.finish) after := by
  have begun := s.saves_withAnalysis (request.begun s)
  obtain ⟨after, run, failed⟩ := abortAnalysis_runOn (α := Build) works.update e request.finish
    (begun.present rfl)
  have inRange : e ≠ .outOfRange := by
    rcases buildOnRecord_error unrecorded with rfl | ⟨cause, rfl⟩ <;> exact nofun
  refine ⟨after, ?_, begun.again failed rfl⟩
  unfold analyzeFailure
  rw [Engine.runOn_bind_ok _ (beginAnalysis_runOn works ..), unrecorded,
    orAbort_error inRange, Engine.runOn_bind_error _ run]

theorem analyzeFailure_of_onRecord (works : services.AnalysesWork) {build : Build}
    (onRecord : buildOnRecord services.history request.key.build = .ok build) (s : EngineState) :
    let a := request.begun s
    (analyzeFailure services request).runOn s =
      (if (request.steps services build).isEmpty then (do
          finishAnalysis services (a.complete (some .notFound) request.finish) "not_found"
          return ⟨a.complete (some .notFound) request.finish, none⟩)
        else analyzeSteps services request a build (request.steps services build)).runOn
        (s.withAnalysis a) := by
  unfold analyzeFailure orAbort
  rw [Engine.runOn_bind_ok _ (beginAnalysis_runOn works ..), onRecord,
    Engine.runOn_bind_ok _ (Engine.runOn_pure ..)]
  rfl

theorem analyzeFailure_of_nothing (works : services.StoreWorks) {build : Build}
    (onRecord : buildOnRecord services.history request.key.build = .ok build)
    (nothing : request.steps services build = []) (s : EngineState) :
    let ended := (request.begun s).complete (some .notFound) request.finish
    ∃ after, (analyzeFailure services request).runOn s = (.ok ⟨ended, none⟩, after) ∧
      s.Saves ended after := by
  have begun := s.saves_withAnalysis (request.begun s)
  obtain ⟨after, run, finished, -⟩ := finishAnalysis_runOn (works _) "not_found"
    (a := (request.begun s).complete (some .notFound) request.finish) (begun.present rfl)
  refine ⟨after, ?_, begun.again finished rfl⟩
  rw [analyzeFailure_of_onRecord works.analyses onRecord, if_pos (List.isEmpty_iff.mpr nothing),
    Engine.runOn_bind_ok _ run, Engine.runOn_pure]

theorem analyzeFailure_of_steps (works : services.StoreWorks) {build : Build}
    (onRecord : buildOnRecord services.history request.key.build = .ok build)
    (something : request.steps services build ≠ []) (s : EngineState) :
    (analyzeFailure services request).runOn s =
      (analyzeSteps services request (request.begun s) build
        (request.steps services build)).runOn (s.withAnalysis (request.begun s)) := by
  rw [analyzeFailure_of_onRecord works.analyses onRecord,
    if_neg fun nothing => something (List.isEmpty_iff.mp nothing)]

/-- However the analysis of a failure ends, it ends in one of seven ways. A store whose records lie
under other keys than their own is no obstacle where the verdict is known. -/
theorem analyzeFailure_runOn (request : AnalysisRequest) (works : services.StoreWorks)
    (keyed : (request.begun s).hasVerdict = false → s.store.Keyed) :
    let run := (analyzeFailure services request).runOn s
    AnalysisEnding services request s run.1 run.2 := by
  have key := Analysis.begun_key request.key (s.store.analysis? request.key) request.start
  have saved := s.saves_withAnalysis (request.begun s)
  cases onRecord : buildOnRecord services.history request.key.build with
  | error e =>
    obtain ⟨after, run, saved⟩ := analyzeFailure_of_unrecorded works.analyses onRecord s
    have something : request.findsNothing services = false := by
      unfold AnalysisRequest.findsNothing
      rw [onRecord]
    dsimp only
    rw [run]
    refine .aborted something ?_ saved ?_
    · exact key
    · rfl
  | ok build =>
    have findings : request.findsNothing services = (request.steps services build).isEmpty := by
      unfold AnalysisRequest.findsNothing
      rw [onRecord]
    by_cases nothing : request.steps services build = []
    · obtain ⟨after, run, saved⟩ := analyzeFailure_of_nothing works onRecord nothing s
      rw [nothing] at findings
      rw [run]
      exact .nothingFailed findings key saved rfl
    · rw [analyzeFailure_of_steps works onRecord nothing]
      rw [List.isEmpty_eq_false_iff.mpr nothing] at findings
      exact analyzeSteps_runOn works keyed findings key rfl saved build _

theorem EngineState.withAnalysis_keyed (keyed : s.store.Keyed) (a : Analysis) :
    (s.withAnalysis a).store.Keyed :=
  (s.saves_withAnalysis a).keyed keyed

theorem Scheduling.analysis?_withAnalysis {request : AnalysisRequest} {range : TryJobRange}
    {suspects : List Suspect} {r : Except AnalysisError TryJob} {a b : Analysis}
    {middle after : EngineState}
    (scheduling : Scheduling services request.key range suspects now middle r after)
    (saved : s.Saves a middle) (key : a.key = request.key) (sameKey : b.key = request.key)
    (k : FailureKey) :
    (after.withAnalysis b).store.analysis? k =
      if request.key = k then some b else s.store.analysis? k := by
  have kept : after.store.analysis? k = middle.store.analysis? k := by
    unfold Store.analysis?
    rw [scheduling.sameAnalyses]
  rw [EngineState.analysis?_withAnalysis, sameKey, kept, saved.analysis?, key]
  split <;> rfl

inductive AnalysisWrites (services : Services) (request : AnalysisRequest) (s : EngineState)
    (r : Except AnalysisError AnalysisOutcome) (s' : EngineState) : Prop
  | saved {a : Analysis} (key : a.key = request.key) (saved : s.Saves a s')
  | scheduled {a b : Analysis} {range : TryJobRange} {job : Except AnalysisError TryJob}
      {middle after : EngineState} (key : a.key = request.key) (saved : s.Saves a middle)
      (scheduling : Scheduling services request.key range a.suspects request.start middle job after)
      (answered : r.isOk = job.isOk) (sameKey : b.key = request.key)
      (written : s' = after.withAnalysis b)

section

variable {r : Except AnalysisError AnalysisOutcome}
  (ending : AnalysisEnding services request s r s')

include ending

theorem AnalysisEnding.writes : AnalysisWrites services request s r s' := by
  cases ending with
  | nothingFailed nothing key saved => exact .saved key saved
  | aborted something key saved => exact .saved key saved
  | verdictKnown something key known saved => exact .saved key saved
  | notBisected something key undecided saved => exact .saved key saved
  | outOfRange something key undecided saved => exact .saved key saved
  | @scheduled a middle after range job something key undecided saved phase scheduling =>
    have sameKey := (Analysis.withTryJob_key (a.after (.evaluated true)) job).trans key
    exact .scheduled key saved scheduling rfl sameKey rfl
  | refused something key undecided saved phase scheduling =>
    exact .scheduled key saved scheduling rfl (by exact key) rfl

theorem AnalysisEnding.keyed (keyed : s.store.Keyed) : s'.store.Keyed := by
  cases ending.writes with
  | saved key saved => exact saved.keyed keyed
  | scheduled key saved scheduling answered sameKey written =>
    exact written ▸ withAnalysis_keyed (scheduling.keyed (saved.keyed keyed)) _

theorem AnalysisEnding.analysis? :
    ∃ a, a.key = request.key ∧ ∀ k,
      s'.store.analysis? k = if request.key = k then some a else s.store.analysis? k := by
  cases ending.writes with
  | saved key saved => exact ⟨_, key, key ▸ saved.analysis?⟩
  | scheduled key saved scheduling answered sameKey written =>
    exact ⟨_, sameKey, written ▸ scheduling.analysis?_withAnalysis saved key sameKey⟩

theorem AnalysisEnding.others (keyed : s.store.Keyed) {k : FailureKey} (other : request.key ≠ k) :
    s'.store.tryJob? k = s.store.tryJob? k := by
  cases ending.writes with
  | saved key saved => exact saved.tryJob? k
  | scheduled key saved scheduling answered sameKey written =>
    rw [written]
    exact (scheduling.others (saved.keyed keyed) other).trans (saved.tryJob? k)

end

end CulpritFinding
