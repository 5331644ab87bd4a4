import CulpritFinding.Json.Format

namespace CulpritFinding

inductive TryJobEvent
  | evaluated (needed : Bool)
  | scheduled (tryJobId : String)
  | started
  | completed
  | flakeDetected
  | failed (reason : String)
  deriving DecidableEq

namespace TryJobEvent

def toCase : TryJobEvent → String × List (String × Json)
  | evaluated needed => ("Evaluated", [("needed", .bool needed)])
  | scheduled id => ("Scheduled", [("try_job_id", .text id)])
  | started => ("Started", [])
  | completed => ("Completed", [])
  | flakeDetected => ("FlakeDetected", [])
  | failed reason => ("Failed", [("reason", .text reason)])

def ofCase? (name : String) (fields : Fields) : Option TryJobEvent :=
  match name with
  | "Evaluated" => (fields.readOne? "needed" .flag).map evaluated
  | "Scheduled" => (fields.readOne? "try_job_id" .text).map scheduled
  | "Started" => fields.readNothing? started
  | "Completed" => fields.readNothing? completed
  | "FlakeDetected" => fields.readNothing? flakeDetected
  | "Failed" => (fields.readOne? "reason" .text).map failed
  | _ => none

def format : Format TryJobEvent := .tagged "type" toCase ofCase?

end TryJobEvent

inductive TryJobPhase
  | notNeeded
  | needed
  | scheduled
  | running
  | completed
  | flaky
  | error
  deriving DecidableEq

namespace TryJobPhase

def name : TryJobPhase → String
  | notNeeded => "NOT_NEEDED"
  | needed => "NEEDED"
  | scheduled => "SCHEDULED"
  | running => "RUNNING"
  | completed => "COMPLETED"
  | flaky => "FLAKY"
  | error => "ERROR"

def all : List TryJobPhase := [notNeeded, needed, scheduled, running, completed, flaky, error]

def format : Format TryJobPhase := .enum all name

def isTerminal : TryJobPhase → Bool
  | completed | flaky | error => true
  | _ => false

/-- The phase after an event, if the event may happen in a phase. After an error the need for a
try job may be decided anew. -/
def next? : TryJobPhase → TryJobEvent → Option TryJobPhase
  | notNeeded, .evaluated isNeeded | needed, .evaluated isNeeded | error, .evaluated isNeeded =>
    some (if isNeeded then needed else notNeeded)
  | needed, .scheduled _ => some scheduled
  | scheduled, .started => some running
  | scheduled, .completed | running, .completed => some completed
  | scheduled, .flakeDetected | running, .flakeDetected => some flaky
  | needed, .failed _ | scheduled, .failed _ | running, .failed _ => some error
  | _, _ => none

def apply (phase : TryJobPhase) (event : TryJobEvent) : TryJobPhase :=
  (phase.next? event).getD phase

end TryJobPhase

end CulpritFinding
