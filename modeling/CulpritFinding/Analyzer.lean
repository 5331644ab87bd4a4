import CulpritFinding.Evidence
import CulpritFinding.Grouping
import CulpritFinding.Treatment

namespace CulpritFinding

structure AnalysisRequest where
  key : FailureKey
  logs : StepLogs
  start : Instant
  finish : Instant
  freshGroupId : GroupId

structure AnalysisOutcome where
  analysis : Analysis
  tryJob : Option TryJob
  deriving DecidableEq

namespace RegressionRange

/-- The revision after which commits are suspected: that of the oldest last pass, where a step
without one is taken to have passed just before it first failed. -/
def baseRevision? (r : RegressionRange) : Option String := do
  let passes := (r.failedSteps.filter (·.supported)).map fun step =>
    step.lastPass.getD (step.firstFailure - 1)
  let build ← r.builds.get? (← passes.min?)
  return build.revision

/-- Whether the number before the first failure fits, for every step that is scored. -/
def baseInRange (r : RegressionRange) : Bool :=
  (r.failedSteps.filter (·.supported)).all fun step => fitsInt64 (step.firstFailure - 1)

def commitAt? (r : RegressionRange) (number : Int) : Option CommitRef :=
  (r.builds.get? number).map fun b => ⟨b.revision, b.commitPosition⟩

def window? (r : RegressionRange) : Option RegressionWindow := do
  let step ← r.failedSteps.find? (·.supported)
  let firstFailed ← r.commitAt? step.firstFailure
  return ⟨step.lastPass.bind r.commitAt?, firstFailed⟩

end RegressionRange

namespace Analysis

/-- An analysis that has begun. The verdict of a try job is not given up when a failure is analyzed
again. -/
def begun (key : FailureKey) (previous : Option Analysis) (now : Instant) : Analysis :=
  let a := { new key now with status := .running }
  match previous with
  | some p => if p.hasVerdict then a.carryVerdict p else a
  | none => a

def complete (a : Analysis) (result : Option AnalysisResult) (now : Instant) : Analysis :=
  { a with status := .completed, result, endTime := some now }

def heuristicResult (a : Analysis) : Option AnalysisResult :=
  if a.hasVerdict then a.result
  else some (if a.suspects.isEmpty then .notFound else .found)

def withSuspects (a : Analysis) (scored : ScoredSuspects) : Analysis :=
  { a with stepSuspects := scored.steps, suspects := scored.suspects }

def withGroup (a : Analysis) (membership : Option GroupMembership) : Analysis :=
  match membership with
  | some m =>
    { a with
      failureGroupId := some m.group.id
      failureGroupBuildId := m.group.representativeBuildId }
  | none => a

def withTryJob (a : Analysis) (job : TryJob) : Analysis :=
  let a := match job.tryJobIds.getLast? with
    | some id => a.after (.scheduled id)
    | none => a
  if job.status = .running then a.after .started else a

end Analysis

def beginAnalysis (services : Services) (request : AnalysisRequest) : Engine Analysis := do
  let previous ← Engine.analysis? services request.key
  let a := Analysis.begun request.key previous request.start
  Engine.saveAnalysis services a
  return a

/-- Ends an analysis with the error that stopped it. The error is reported also where it cannot be
saved. -/
def abortAnalysis {α : Type} (services : Services) (a : Analysis) (e : AnalysisError)
    (now : Instant) : Engine α := do
  tryCatch (Engine.updateAnalysis services (a.fail e.message now)) fun _ => pure ()
  Engine.record (.analysisFinished a.key.kind.text AnalysisStatus.error.text)
  throw e

def orAbort {α : Type} (services : Services) (a : Analysis) (now : Instant) :
    Except AnalysisError α → Engine α
  | .ok v => return v
  | .error .outOfRange => throw .outOfRange
  | .error e => abortAnalysis services a e now

def finishAnalysis (services : Services) (a : Analysis) (outcome : String) : Engine Unit := do
  Engine.updateAnalysis services a
  Engine.record (.analysisFinished a.key.kind.text outcome)

def buildOnRecord (history : BuildHistory) (key : BuildKey) : Except AnalysisError Build :=
  match history key.project key.builder key.buildNumber with
  | .ok (some build) => .ok build
  | .ok none => .error (.missingBuildData key)
  | .error e => .error (.provider e)

def findSuspects (services : Services) (build : Build) (range : RegressionRange)
    (signals : FailureSignals) : Except AnalysisError ScoredSuspects :=
  if !range.baseInRange then .error .outOfRange
  else do
    let changeLogs ← (services.changeLogs range.baseRevision? build.revision).mapError .provider
    let dependencies ← (services.dependencies build changeLogs).mapError .provider
    match scoreSuspects? services.scorer
      ⟨range.failedSteps, range.builds, changeLogs, dependencies, signals⟩ with
    | some scored => return scored
    | none => throw .outOfRange

/-- Finds the group of a failure. A failure whose group the store cannot find has none. -/
def groupFailure (services : Services) (request : AnalysisRequest) (build : Build)
    (range : RegressionRange) (signals : FailureSignals) : Engine (Option GroupMembership) :=
  match range.window? with
  | none => return none
  | some window =>
    let kind := request.key.kind
    tryCatch
      (findOrCreateGroup services request.freshGroupId build kind
        (kind.signature range.failedSteps signals) window request.start)
      fun e =>
        match e with
        | .outOfRange => throw .outOfRange
        | _ => return none

/-- The steps that are bisected. A failure that joined a group leaves this to the failure that
started it. -/
def stepsToBisect (kind : FailureKind) (build : Build) (range : RegressionRange)
    (membership : Option GroupMembership) : List FailedStep :=
  if membership.any fun m => !m.isNew then [] else kind.tryJobSteps build range.failedSteps

def startTryJob (services : Services) (request : AnalysisRequest) (a : Analysis)
    (range : TryJobRange) : Engine AnalysisOutcome := do
  match ← ExceptT.lift (scheduleTryJob services request.key range a.suspects request.start).run with
  | .ok job =>
    let a := a.withTryJob job
    Engine.updateAnalysis services a
    return ⟨a, some job⟩
  | .error .outOfRange => throw .outOfRange
  | .error e =>
    Engine.updateAnalysis services (a.after (.failed e.message))
    throw e

def verifyFailure (services : Services) (request : AnalysisRequest) (a : Analysis) (build : Build)
    (range : RegressionRange) (signals : FailureSignals) (membership : Option GroupMembership) :
    Engine AnalysisOutcome := do
  let kind := request.key.kind
  let steps := stepsToBisect kind build range membership
  let a := a.after (.evaluated !steps.isEmpty)
  if steps.isEmpty then
    Engine.updateAnalysis services a
    return ⟨a, none⟩
  else
    match tryJobRange services.config kind build steps range.builds signals with
    | .ok tryJobRange => startTryJob services request a tryJobRange
    | .error _ =>
      let a := a.after (.evaluated false)
      Engine.updateAnalysis services a
      return ⟨a, none⟩

def concludeSteps (services : Services) (request : AnalysisRequest) (a : Analysis) (build : Build)
    (range : RegressionRange) (signals : FailureSignals) (membership : Option GroupMembership) :
    Engine AnalysisOutcome := do
  let ended := a.complete a.heuristicResult request.finish
  finishAnalysis services ended AnalysisStatus.completed.text
  if ended.hasVerdict then return ⟨ended, ← Engine.tryJob? services request.key⟩
  else verifyFailure services request ended build range signals membership

def analyzeRange (services : Services) (request : AnalysisRequest) (a : Analysis) (build : Build)
    (range : RegressionRange) : Engine AnalysisOutcome := do
  let kind := request.key.kind
  let a := { a with failedSteps := range.failedSteps }
  Engine.updateAnalysis services a
  let signals := FailureSignals.ofLogs kind request.logs
  let scored ← orAbort services a request.finish (findSuspects services build range signals)
  Engine.record (.suspectsFound kind.text scored.suspects.length)
  let membership ← groupFailure services request build range signals
  concludeSteps services request ((a.withSuspects scored).withGroup membership) build range signals
    membership

def analyzeSteps (services : Services) (request : AnalysisRequest) (a : Analysis) (build : Build)
    (steps : List FailedStep) : Engine AnalysisOutcome :=
  match findRegressionRange? services.history services.config build steps with
  | none => throw .outOfRange
  | some range => analyzeRange services request a build range

def analyzeFailure (services : Services) (request : AnalysisRequest) : Engine AnalysisOutcome := do
  let a ← beginAnalysis services request
  let build ← orAbort services a request.finish
    (buildOnRecord services.history request.key.build)
  let steps := initialFailedSteps services.config build
    (request.key.kind.handlesStep services.config)
  if steps.isEmpty then
    let a := a.complete (some .notFound) request.finish
    finishAnalysis services a "not_found"
    return ⟨a, none⟩
  else analyzeSteps services request a build steps

end CulpritFinding
