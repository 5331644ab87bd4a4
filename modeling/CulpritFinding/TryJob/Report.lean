import CulpritFinding.Json.Format

namespace CulpritFinding

structure TryJobRange where
  goodRevision : String
  badRevision : String
  compileTargets : List String
  tests : SortedMap String (List String)
  deriving DecidableEq

namespace TryJobRange

def format : Format TryJobRange := .record <|
  Shape.pure TryJobRange.mk
    |>.required "good_revision" .text (·.goodRevision)
    |>.required "bad_revision" .text (·.badRevision)
    |>.withDefault "compile_targets" (.list .text) (·.compileTargets) []
    |>.withDefault "tests" (.map (.list .text)) (·.tests) .empty

end TryJobRange

structure StepOutcome where
  status : String
  failures : List String
  valid : Bool
  deriving DecidableEq

namespace StepOutcome

def format : Format StepOutcome := .record <|
  Shape.pure StepOutcome.mk
    |>.required "status" .text (·.status)
    |>.withDefault "failures" (.list .text) (·.failures) []
    |>.withDefault "valid" .flag (·.valid) true

end StepOutcome

/-- The outcome at one revision: a status where a compile was tried, steps where tests were run. -/
structure RevisionResult where
  revision : String
  status : Option String
  steps : SortedMap String StepOutcome
  deriving DecidableEq

namespace RevisionResult

def format : Format RevisionResult := .record <|
  Shape.pure RevisionResult.mk
    |>.required "revision" .text (·.revision)
    |>.optional "status" .text (·.status)
    |>.withDefault "steps" (.map StepOutcome.format) (·.steps) .empty

end RevisionResult

def statusPassed : String := "passed"

def statusFailed : String := "failed"

structure TryJobReport where
  results : List RevisionResult
  culprit : Option String
  culprits : SortedMap String String
  goodRevision : Option String
  badRevision : Option String
  subRanges : List (String × String)
  deriving DecidableEq

namespace TryJobReport

def resultAt? (r : TryJobReport) (revision : String) : Option RevisionResult :=
  r.results.find? fun result => result.revision = revision

def format : Format TryJobReport := .record <|
  Shape.pure TryJobReport.mk
    |>.withDefault "result" (.list RevisionResult.format) (·.results) []
    |>.optional "culprit" .text (·.culprit)
    |>.withDefault "culprits" (.map .text) (·.culprits) .empty
    |>.optional "good_revision" .text (·.goodRevision)
    |>.optional "bad_revision" .text (·.badRevision)
    |>.withDefault "sub_ranges" (.list (.pair .text .text)) (·.subRanges) []

end TryJobReport

inductive ExternalResult
  | success
  | failure
  | infraFailure
  | canceled
  deriving DecidableEq

namespace ExternalResult

def name : ExternalResult → String
  | success => "SUCCESS"
  | failure => "FAILURE"
  | infraFailure => "INFRA_FAILURE"
  | canceled => "CANCELED"

def text : ExternalResult → String
  | success => "Success"
  | failure => "Failure"
  | infraFailure => "InfraFailure"
  | canceled => "Canceled"

def all : List ExternalResult := [success, failure, infraFailure, canceled]

def format : Format ExternalResult := .enum all name

def formatInStatus : Format ExternalResult := .enumInCase all name

end ExternalResult

inductive ExternalStatus
  | scheduled
  | started (startTime : Option Instant)
  | completed (result : ExternalResult) (report : Option TryJobReport) (endTime : Option Instant)
  deriving DecidableEq

namespace ExternalStatus

structure Ending where
  result : ExternalResult
  report : Option TryJobReport
  endTime : Option Instant

def Ending.shape : Shape Ending Ending :=
  Shape.pure Ending.mk
    |>.required "result" ExternalResult.formatInStatus (·.result)
    |>.optional "report" TryJobReport.format (·.report)
    |>.optional "end_time" .instant (·.endTime)

def startShape : Shape (Option Instant) (Option Instant) :=
  .field "start_time" (.option .instant) id (.standsFor none)

def toCase : ExternalStatus → String × List (String × Json)
  | scheduled => ("SCHEDULED", [])
  | started startTime => ("STARTED", startShape.write startTime)
  | completed result report endTime =>
    ("COMPLETED", Ending.shape.write ⟨result, report, endTime⟩)

def ofCase? (name : String) (fields : Fields) : Option ExternalStatus :=
  match name with
  | "SCHEDULED" => fields.readNothing? scheduled
  | "STARTED" => (startShape.readAll? fields).map started
  | "COMPLETED" => (Ending.shape.readAll? fields).map fun e => completed e.result e.report e.endTime
  | _ => none

def format : Format ExternalStatus := .tagged "status" toCase ofCase?

end ExternalStatus

end CulpritFinding
