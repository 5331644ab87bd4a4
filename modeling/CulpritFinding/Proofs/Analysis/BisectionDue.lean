import CulpritFinding.Proofs.Analysis.Grouping
import CulpritFinding.Proofs.Analysis.Rerun
import CulpritFinding.Proofs.RegressionRange.Nesting

namespace CulpritFinding

structure TryJobRequest.Spans (sent : TryJobRequest)
    (lookUp : Int → Except ProviderError (Option Build)) (current : Build)
    (steps : List FailedStep) : Prop where
  bad : sent.properties.get? "bad_revision" = some (.text current.revision)
  good : ∃ oldest build, (steps.filterMap (·.lastPass)).min? = some oldest ∧
    oldest < current.buildNumber ∧ lookUp oldest = .ok (some build) ∧
    sent.properties.get? "good_revision" = some (.text build.revision)

namespace AnalysisRequest

variable (request : AnalysisRequest) (services : Services) (build : Build)

def range : RegressionRange :=
  findRegressionRange services.history services.config build (request.steps services build)

def groupToJoin? (s : Store) : Option FailureGroup :=
  (request.range services build).groupToJoin? s build request.key.kind
    (.ofLogs request.key.kind request.logs)

def traits (window : RegressionWindow) : FailureTraits :=
  ⟨build, request.key.kind, request.key.kind.signature (request.range services build).failedSteps
    (.ofLogs request.key.kind request.logs), window⟩

/-- When every number fits that is computed on the way to a bisection. -/
structure InRange (s : Store) : Prop where
  walk : fitsInt64 (build.buildNumber - 1) = true
  windows : ∀ window ∈ (request.range services build).window?,
    ¬ (request.traits services build window).Stops s.groups
  timeout : services.config.claimTimeoutSeconds ≤ Span.maxSeconds
  attempts : ∀ job ∈ s.tryJob? request.key, job.attempt + 1 < limit32

end AnalysisRequest

variable {services : Services} {request : AnalysisRequest} {s middle after : EngineState}
  {build : Build} {membership : Option GroupMembership}

theorem TryJobRequest.of_revisions (config : Config) (key : FailureKey) (range : TryJobRange)
    (revisions : List String) :
    let properties := (TryJobRequest.of config key range revisions).properties
    properties.get? "good_revision" = some (.text range.goodRevision) ∧
      properties.get? "bad_revision" = some (.text range.badRevision) := by
  unfold TryJobRequest.of
  cases key.kind <;> simp [SortedMap.ofList, SortedMap.get?_insert]

theorem TryJobRange.Spans.requestFor {range : TryJobRange}
    {lookUp : Int → Except ProviderError (Option Build)} {steps : List FailedStep}
    (spans : range.Spans lookUp build steps) (services : Services) (key : FailureKey)
    (suspects : List Suspect) :
    (requestFor services key range suspects).Spans lookUp build steps := by
  obtain ⟨good, bad⟩ := TryJobRequest.of_revisions services.config key range
    ((suspects.take services.config.maxSuspectsForTryJob).map (·.revision))
  obtain ⟨oldest, passed, least, before, asked, revision⟩ := spans.good
  exact ⟨spans.bad ▸ bad, oldest, passed, least, before, asked, revision ▸ good⟩

theorem startTryJob_submissions (services : Services) (request : AnalysisRequest) (a : Analysis)
    (range : TryJobRange) (s : EngineState) :
    ((startTryJob services request a range).runOn s).2.submissions =
      ((scheduleTryJob services request.key range a.suspects request.start).runOn
        s).2.submissions := by
  unfold startTryJob
  rw [Engine.runOn_bind_ok _ (Engine.runOn_lift ..)]
  rcases (scheduleTryJob services request.key range a.suspects request.start).runOn s with
    ⟨e | job, after⟩
  · dsimp only
    split
    · rename_i done
      cases done
    · rfl
    · exact ((Engine.silent_updateAnalysis ..).bind fun _ => Engine.silent_throw _).submissions _
  · exact ((Engine.silent_updateAnalysis ..).bind fun _ => Engine.silent_pure _).submissions _

theorem verifyFailure_submissions (services : Services) (request : AnalysisRequest) (a : Analysis)
    (build : Build) (range : RegressionRange) (signals : FailureSignals)
    (membership : Option GroupMembership) (s : EngineState) :
    let steps := stepsToBisect request.key.kind build range membership
    ((verifyFailure services request a build range signals membership).runOn s).2.submissions =
      match tryJobRange services.config request.key.kind build steps range.builds signals with
      | .ok bisected => ((scheduleTryJob services request.key bisected a.suspects
          request.start).runOn s).2.submissions
      | .error _ => s.submissions := by
  have unasked (a : Analysis) (outcome : AnalysisOutcome) : (do
      Engine.updateAnalysis services a
      return outcome : Engine AnalysisOutcome).Silent :=
    (Engine.silent_updateAnalysis ..).bind fun _ => Engine.silent_pure _
  unfold verifyFailure
  dsimp only
  generalize stepsToBisect request.key.kind build range membership = steps
  cases steps with
  | nil => exact (unasked ..).submissions s
  | cons first rest =>
    simp only [List.isEmpty_cons, Bool.false_eq_true, if_false]
    cases tryJobRange services.config request.key.kind build (first :: rest) range.builds
      signals with
    | ok bisected => exact startTryJob_submissions ..
    | error e => exact (unasked ..).submissions s

namespace AnalysisRequest

end AnalysisRequest

structure Services.SourcesWork (services : Services) : Prop where
  commits : ∀ after upTo, ∃ logs, services.changeLogs after upTo = .ok logs
  rolls : ∀ build logs, ∃ rolls, services.dependencies build logs = .ok rolls

theorem ScoringInput.inRange_of_starts {input : ScoringInput}
    (starts : ∀ step ∈ input.failedSteps, BuildRange.startsInRange step.lastPass = true ∧
      ∀ e ∈ step.tests.toList, BuildRange.startsInRange e.2.lastPass = true) :
    input.inRange = true := by
  refine List.all_eq_true.mpr fun step scored => ?_
  refine (Option.all_eq_true _ _).mpr fun signal _ => ?_
  obtain ⟨own, tests⟩ := starts step (List.mem_of_mem_filter scored)
  have all : step.tests.toList.all (fun e => (signal.tests.get? e.1).all (·.isEmpty) ||
      BuildRange.startsInRange e.2.lastPass) = true :=
    List.all_eq_true.mpr fun e listed => by rw [tests e listed, Bool.or_true]
  rw [StepScores.inRange, own, all, Bool.or_true, Bool.true_and, Bool.or_true]

theorem Services.SourcesWork.findSuspects_cases (sources : services.SourcesWork) (build : Build)
    (range : RegressionRange) (signals : FailureSignals) :
    (∃ scored, findSuspects services build range signals = .ok scored) ∨
      findSuspects services build range signals = .error .outOfRange := by
  obtain ⟨logs, commits⟩ := sources.commits range.baseRevision? build.revision
  obtain ⟨rolled, rolls⟩ := sources.rolls build logs
  unfold findSuspects
  rw [commits]
  dsimp only [Except.mapError, bind, Except.bind]
  rw [rolls]
  dsimp only
  split
  · exact .inr rfl
  · split
    · exact .inl ⟨_, rfl⟩
    · exact .inr rfl

theorem Services.SourcesWork.findSuspects (sources : services.SourcesWork)
    (answers : services.history.AnswersByNumber) (request : AnalysisRequest)
    (fits : fitsInt64 build.buildNumber = true) (walk : fitsInt64 (build.buildNumber - 1) = true)
    (signals : FailureSignals) :
    ∃ scored, findSuspects services build (request.range services build) signals = .ok scored := by
  have inRange {step : FailedStep} (member : step ∈ (request.range services build).failedSteps) :=
    findRegressionRange_inRange answers services.config build _ fits walk member
  have base : (request.range services build).baseInRange = true :=
    List.all_eq_true.mpr fun step scored => (inRange (List.mem_of_mem_filter scored)).1
  obtain ⟨logs, commits⟩ :=
    sources.commits (request.range services build).baseRevision? build.revision
  obtain ⟨rolled, rolls⟩ := sources.rolls build logs
  unfold CulpritFinding.findSuspects
  rw [base, commits]
  dsimp only [Except.mapError, bind, Except.bind]
  rw [rolls]
  dsimp only
  rw [scoreSuspects?, if_pos (ScoringInput.inRange_of_starts fun step member =>
    (inRange member).2)]
  exact ⟨_, rfl⟩

namespace Overlong

def patient (seconds : Int) : Services :=
  { Services.recalling "8000001" with
    config := { Config.standard with claimTimeoutSeconds := seconds } }

def broken : Build := brokenBuilds[1]

theorem inRange {seconds : Int} (short : seconds ≤ Span.maxSeconds) :
    (brokenRequest 0).InRange (patient seconds) broken Store.empty := by
  have unclaimed : Store.empty.tryJob? (brokenRequest 0).key = none := rfl
  constructor
  · decide
  · exact fun window _ stops => nomatch stops.unbounded
  · exact short
  · simp [unclaimed]

end Overlong

end CulpritFinding
