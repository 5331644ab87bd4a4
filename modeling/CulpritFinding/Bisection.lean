import CulpritFinding.Engine
import CulpritFinding.RegressionRange
import CulpritFinding.Sha256

namespace CulpritFinding

def needsTryJob (build : Build) (step : FailedStep) : Bool :=
  build.isCompleted && step.supported && step.isNewFailure

def oldestPass : List FailedStep → Except AnalysisError (Option Int)
  | [] => .ok none
  | step :: rest =>
    match step.lastPass with
    | none => .error (.noGoodRevision step.stepName)
    | some pass => do
      let oldest ← oldestPass rest
      return some ((oldest.map (min pass)).getD pass)

/-- The targets that a try job builds for the evidence on a compile step: its output nodes if these
are preferred, or else its failed targets. Those with a source count only where a project asks for
them. -/
def compileTargetsOf (config : Config) (strict : Bool) (signal : FailureSignal) : List String :=
  if config.useNinjaOutputLog && !signal.failedOutputNodes.isEmpty then
    signal.failedOutputNodes.toList
  else
    (signal.failedTargets.filter fun t => t.source.isNone || strict).map (·.target)

def compileTargets (config : Config) (project : String) (steps : List FailedStep)
    (signals : FailureSignals) : SortedSet String :=
  .ofList <| (steps.filterMap fun step => signals.get? step.stepName).flatMap fun s =>
    compileTargetsOf config (config.usesStrictRegex project) s.signal

def tryJobRange (config : Config) (kind : FailureKind) (current : Build) (steps : List FailedStep)
    (builds : SortedMap Int Build) (signals : FailureSignals) :
    Except AnalysisError TryJobRange := do
  let oldest ← oldestPass steps
  match oldest.bind builds.get? with
  | none => .error (.noGoodRevision ((steps.head?.map (·.stepName)).getD ""))
  | some good =>
    return {
      goodRevision := good.revision
      badRevision := current.revision
      compileTargets := match kind with
        | .compile => (compileTargets config current.project steps signals).toList
        | .test => []
      tests := match kind with
        | .compile => .empty
        | .test => .ofList (steps.map fun step => (step.stepName, step.tests.keys)) }

def cacheName (project builder : String) : String :=
  "builder_" ++ Sha256.hexDigest (project ++ "/" ++ builder)

def TryJobRequest.of (config : Config) (key : FailureKey) (range : TryJobRange)
    (suspectedRevisions : List String) : TryJobRequest where
  builder := key.build.builder
  properties := .ofList <|
    [("good_revision", .text range.goodRevision),
     ("bad_revision", .text range.badRevision),
     ("target_project", .text key.build.project),
     ("target_builder", .text key.build.builder),
     ("referenced_build_number", .int key.build.buildNumber),
     ("suspected_revisions", (Format.list .text).write suspectedRevisions),
     match key.kind with
     | .compile => ("compile_targets", (Format.list .text).write range.compileTargets)
     | .test => ("tests", (Format.map (.list .text)).write range.tests)]
  cache := ⟨cacheName key.build.project key.build.builder, "builder"⟩
  dimensions := [⟨"pool", config.tryJobPool⟩, ⟨"builder", key.build.builder⟩]

/-- Triggers a try job that was claimed. If the scheduler refuses, the try job ends with an error,
so that a later call can revive it. -/
def triggerTryJob (services : Services) (job : TryJob) (range : TryJobRange)
    (suspects : List Suspect) (now : Instant) : Engine TryJob := do
  let revisions := (suspects.take services.config.maxSuspectsForTryJob).map (·.revision)
  let job := { job with suspectedRevisions := revisions, range := some range }
  match ← Engine.submit services (.of services.config job.key range revisions) with
  | .ok tryJobId =>
    let job := { job with tryJobIds := job.tryJobIds ++ [tryJobId] }
    Engine.updateTryJob services job
    Engine.record (.tryJobStatusChanged job.status.text)
    return job
  | .error e =>
    let job := { job with status := .error, error := some e.message, completedAt := some now }
    Engine.updateTryJob services job
    Engine.record (.tryJobStatusChanged job.status.text)
    throw (.tryJobScheduling job.key.text e)

def scheduleTryJob (services : Services) (key : FailureKey) (range : TryJobRange)
    (suspects : List Suspect) (now : Instant) : Engine TryJob := do
  match services.config.claimTimeout? with
  | none => throw .outOfRange
  | some staleAfter =>
    match ← Engine.claimTryJob services key now staleAfter with
    | .inFlight job => return job
    | .created job | .revived job => triggerTryJob services job range suspects now

inductive TryJobUpdate
  | updated (job : TryJob)
  /-- The try job had ended, or the status belongs to an earlier attempt. -/
  | ignored (job : TryJob)
  deriving DecidableEq

namespace TryJobUpdate

def job : TryJobUpdate → TryJob
  | updated j | ignored j => j

end TryJobUpdate

namespace TryJob

def secondsUntil (j : TryJob) (stop : Instant) : Int :=
  (stop.since (j.startedAt.getD j.createdAt)).wholeSeconds

def finish (j : TryJob) (result : ExternalResult) (report : Option TryJobReport) (stop : Instant) :
    TryJob :=
  let ended := { j with
    completedAt := some stop
    elapsedSeconds := some (j.secondsUntil stop)
    reports := j.reports ++ report.toList }
  if result = .success then { ended with status := .completed }
  else { ended with status := .error, error := some ("try job ended with " ++ result.text) }

def follow (j : TryJob) (now : Instant) : ExternalStatus → TryJob
  | .scheduled => { j with status := .pending }
  | .started startTime => { j with status := .running, startedAt := some (startTime.getD now) }
  | .completed result report endTime => j.finish result report (endTime.getD now)

def awaits (j : TryJob) (tryJobId : String) : Bool :=
  !j.status.isTerminal && j.tryJobIds.getLast? = some tryJobId

end TryJob

def updateTryJob (services : Services) (tryJobId : String) (status : ExternalStatus)
    (now : Instant) : Engine TryJobUpdate := do
  match ← Engine.tryJobWithId? services tryJobId with
  | none => throw (.unknownTryJob tryJobId)
  | some job =>
    if !job.awaits tryJobId then return .ignored job
    else
      let job := job.follow now status
      if let .completed _ _ _ := status then
        Engine.record (.tryJobDuration (job.elapsedSeconds.getD 0))
      Engine.updateTryJob services job
      Engine.record (.tryJobStatusChanged job.status.text)
      return .updated job

end CulpritFinding
