import CulpritFinding.Failure.Kind
import CulpritFinding.TryJob.Report

namespace CulpritFinding

inductive TryJobStatus
  | pending
  | running
  | completed
  | error
  deriving DecidableEq

namespace TryJobStatus

def text : TryJobStatus → String
  | pending => "pending"
  | running => "running"
  | completed => "completed"
  | error => "error"

def name : TryJobStatus → String
  | pending => "PENDING"
  | running => "RUNNING"
  | completed => "COMPLETED"
  | error => "ERROR"

def all : List TryJobStatus := [pending, running, completed, error]

def parse? (s : String) : Option TryJobStatus := Format.named? all text s

def isTerminal (s : TryJobStatus) : Bool := s = completed || s = error

def format : Format TryJobStatus := .enum all name

end TryJobStatus

structure TryJob where
  key : FailureKey
  attempt : Nat
  status : TryJobStatus
  tryJobIds : List String
  range : Option TryJobRange
  suspectedRevisions : List String
  reports : List TryJobReport
  createdAt : Instant
  startedAt : Option Instant
  completedAt : Option Instant
  elapsedSeconds : Option Int
  error : Option String
  deriving DecidableEq

namespace TryJob

def new (key : FailureKey) (now : Instant) : TryJob where
  key
  attempt := 1
  status := .pending
  tryJobIds := []
  range := none
  suspectedRevisions := []
  reports := []
  createdAt := now
  startedAt := none
  completedAt := none
  elapsedSeconds := none
  error := none

/-- Whether a claim was made long ago and no identifier of the scheduler was recorded since: who
made it most likely never came to trigger the try job. -/
def isStaleClaim (j : TryJob) (now : Instant) (staleAfter : Span) : Bool :=
  j.status = .pending && j.tryJobIds.isEmpty && staleAfter.nanos ≤ (now.since j.createdAt).nanos

/-- A further attempt, if attempts can be counted so far in 32 bits; what earlier attempts left
behind is kept. -/
def revive? (j : TryJob) (now : Instant) : Option TryJob :=
  if j.attempt + 1 < limit32 then
    some { j with
      attempt := j.attempt + 1
      status := .pending
      createdAt := now
      startedAt := none
      completedAt := none
      elapsedSeconds := none
      error := none }
  else none

def latestReport? (j : TryJob) : Option TryJobReport := j.reports.getLast?

def format : Format TryJob := .record <|
  Shape.pure TryJob.mk
    |>.required "key" FailureKey.format (·.key)
    |>.required "attempt" .nat32 (·.attempt)
    |>.required "status" TryJobStatus.format (·.status)
    |>.withDefault "try_job_ids" (.list .text) (·.tryJobIds) []
    |>.optional "range" TryJobRange.format (·.range)
    |>.withDefault "suspected_revisions" (.list .text) (·.suspectedRevisions) []
    |>.withDefault "results" (.list TryJobReport.format) (·.reports) []
    |>.required "created_at" .instant (·.createdAt)
    |>.optional "started_at" .instant (·.startedAt)
    |>.optional "completed_at" .instant (·.completedAt)
    |>.optional "elapsed_seconds" .int64 (·.elapsedSeconds)
    |>.optional "error" .text (·.error)

end TryJob

inductive TryJobClaim
  | created (job : TryJob)
  | revived (job : TryJob)
  | inFlight (job : TryJob)
  deriving DecidableEq

namespace TryJobClaim

def job : TryJobClaim → TryJob
  | created j | revived j | inFlight j => j

def isInFlight : TryJobClaim → Bool
  | inFlight _ => true
  | _ => false

end TryJobClaim

end CulpritFinding
