import CulpritFinding.Failure.Kind
import CulpritFinding.Failure.Step
import CulpritFinding.Suspect
import CulpritFinding.TryJob.Phase

namespace CulpritFinding

inductive AnalysisStatus
  | pending
  | running
  | completed
  | error
  deriving DecidableEq

namespace AnalysisStatus

def text : AnalysisStatus → String
  | pending => "pending"
  | running => "running"
  | completed => "completed"
  | error => "error"

def name : AnalysisStatus → String
  | pending => "PENDING"
  | running => "RUNNING"
  | completed => "COMPLETED"
  | error => "ERROR"

def format : Format AnalysisStatus := .enum [pending, running, completed, error] name

end AnalysisStatus

inductive AnalysisResult
  | found
  | notFound
  | flaky
  deriving DecidableEq

namespace AnalysisResult

def name : AnalysisResult → String
  | found => "FOUND"
  | notFound => "NOT_FOUND"
  | flaky => "FLAKY"

def format : Format AnalysisResult := .enum [found, notFound, flaky] name

end AnalysisResult

structure Analysis where
  key : FailureKey
  status : AnalysisStatus
  result : Option AnalysisResult
  failedSteps : List FailedStep
  stepSuspects : List StepSuspects
  suspects : List Suspect
  failureGroupId : Option GroupId
  failureGroupBuildId : Option Int
  tryJobPhase : TryJobPhase
  culprits : List Culprit
  flaky : Bool
  autoActionAllowed : Bool
  error : Option String
  startTime : Instant
  endTime : Option Instant
  deriving DecidableEq

namespace Analysis

def new (key : FailureKey) (now : Instant) : Analysis where
  key
  status := .pending
  result := none
  failedSteps := []
  stepSuspects := []
  suspects := []
  failureGroupId := none
  failureGroupBuildId := none
  tryJobPhase := .notNeeded
  culprits := []
  flaky := false
  autoActionAllowed := true
  error := none
  startTime := now
  endTime := none

def fail (a : Analysis) (reason : String) (now : Instant) : Analysis :=
  { a with status := .error, error := some reason, endTime := some now }

def step? (a : Analysis) (name : String) : Option FailedStep :=
  a.failedSteps.find? fun s => s.stepName = name

def isTerminal (a : Analysis) : Bool := a.status = .completed || a.status = .error

def hasVerdict (a : Analysis) : Bool := a.tryJobPhase = .completed || a.tryJobPhase = .flaky

def carryVerdict (a previous : Analysis) : Analysis :=
  { a with
    tryJobPhase := previous.tryJobPhase
    result := previous.result
    culprits := previous.culprits
    flaky := previous.flaky
    autoActionAllowed := previous.autoActionAllowed }

def after (a : Analysis) (event : TryJobEvent) : Analysis :=
  { a with tryJobPhase := a.tryJobPhase.apply event }

def format : Format Analysis := .record <|
  Shape.pure Analysis.mk
    |>.required "key" FailureKey.format (·.key)
    |>.required "status" AnalysisStatus.format (·.status)
    |>.optional "result" AnalysisResult.format (·.result)
    |>.withDefault "failed_steps" (.list FailedStep.format) (·.failedSteps) []
    |>.withDefault "step_suspects" (.list StepSuspects.format) (·.stepSuspects) []
    |>.withDefault "suspected_cls" (.list Suspect.format) (·.suspects) []
    |>.optional "failure_group_id" .groupId (·.failureGroupId)
    |>.optional "failure_group_build_id" .int64 (·.failureGroupBuildId)
    |>.withDefault "try_job_phase" TryJobPhase.format (·.tryJobPhase) .notNeeded
    |>.withDefault "culprits" (.list Culprit.format) (·.culprits) []
    |>.withDefault "flaky" .flag (·.flaky) false
    |>.withDefault "auto_action_allowed" .flag (·.autoActionAllowed) true
    |>.optional "error" .text (·.error)
    |>.required "start_time" .instant (·.startTime)
    |>.optional "end_time" .instant (·.endTime)

end Analysis

end CulpritFinding
