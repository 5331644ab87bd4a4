import CulpritFinding.History
import CulpritFinding.Metric
import CulpritFinding.Scoring
import CulpritFinding.Store
import CulpritFinding.TryJob.Request

namespace CulpritFinding

structure Scheduler where
  trigger : TryJobRequest → Except SchedulerError String
  status : (tryJobId : String) → Except SchedulerError ExternalStatus

namespace Scheduler

def firstId : Nat := 8000000

/-- A scheduler that only records. It has accepted some requests already; it knows the statuses it
was told, and takes any other try job to be waiting. A fault makes it refuse requests, and if it is
unavailable, questions too. -/
def recording (accepted : Nat) (statuses : Table String ExternalStatus)
    (fault : Option SchedulerError) : Scheduler where
  trigger _ :=
    match fault with
    | some e => .error e
    | none => .ok (natText (firstId + accepted + 1))
  status tryJobId :=
    match fault with
    | some (.unavailable reason) => .error (.unavailable reason)
    | _ => .ok ((statuses.get? tryJobId).getD .scheduled)

end Scheduler

inductive StoreMethod
  | getAnalysis
  | createAnalysis
  | updateAnalysis
  | findFailureGroups
  | createFailureGroup
  | updateFailureGroup
  | getTryJob
  | findTryJobById
  | claimTryJob
  | updateTryJob
  | getFlakeAggregate
  | putFlakeAggregate
  deriving DecidableEq

namespace StoreMethod

def name : StoreMethod → String
  | getAnalysis => "get_analysis"
  | createAnalysis => "create_analysis"
  | updateAnalysis => "update_analysis"
  | findFailureGroups => "find_failure_groups"
  | createFailureGroup => "create_failure_group"
  | updateFailureGroup => "update_failure_group"
  | getTryJob => "get_try_job"
  | findTryJobById => "find_try_job_by_id"
  | claimTryJob => "claim_try_job"
  | updateTryJob => "update_try_job"
  | getFlakeAggregate => "get_flake_aggregate"
  | putFlakeAggregate => "put_flake_aggregate"

end StoreMethod

structure Services where
  config : Config
  history : BuildHistory
  changeLogs : ChangeLogSource
  dependencies : DependencySource
  scheduler : Scheduler
  scorer : ChangeScorer
  storeFault : StoreMethod → Option String

structure Submission where
  request : TryJobRequest
  answer : Except SchedulerError String

def Submission.isAccepted (s : Submission) : Bool := s.answer.isOk

structure EngineState where
  store : Store
  submissions : List Submission
  metrics : List Metric

namespace EngineState

def initial : EngineState := ⟨.empty, [], []⟩

def acceptedRequests (s : EngineState) : List TryJobRequest :=
  (s.submissions.filter (·.isAccepted)).map (·.request)

end EngineState

abbrev Engine := ExceptT AnalysisError (StateM EngineState)

namespace Engine

/-- An operation of the store. It fails without effect where the services say so. -/
def access {α : Type} (services : Services) (method : StoreMethod)
    (operation : Store → Except StoreError (α × Store)) : Engine α := do
  let state ← get
  match services.storeFault method with
  | some reason => throw (.store (.backend reason))
  | none =>
    match operation state.store with
    | .error e => throw (.store e)
    | .ok (answer, store) =>
      set { state with store }
      return answer

def read {α : Type} (services : Services) (method : StoreMethod) (question : Store → α) :
    Engine α :=
  access services method fun s => .ok (question s, s)

def write (services : Services) (method : StoreMethod)
    (change : Store → Except StoreError Store) : Engine Unit :=
  access services method fun s => (change s).map fun s => ((), s)

def record (event : Metric) : Engine Unit :=
  modify fun s => { s with metrics := s.metrics ++ [event] }

def submit (services : Services) (request : TryJobRequest) :
    Engine (Except SchedulerError String) := do
  let answer := services.scheduler.trigger request
  modify fun s => { s with submissions := s.submissions ++ [⟨request, answer⟩] }
  return answer

def analysis? (services : Services) (key : FailureKey) : Engine (Option Analysis) :=
  read services .getAnalysis fun s => s.analysis? key

def createAnalysis (services : Services) (a : Analysis) : Engine Unit :=
  write services .createAnalysis fun s => s.createAnalysis a

def updateAnalysis (services : Services) (a : Analysis) : Engine Unit :=
  write services .updateAnalysis fun s => s.updateAnalysis a

def saveAnalysis (services : Services) (a : Analysis) : Engine Unit :=
  tryCatch (createAnalysis services a) fun e =>
    match e with
    | .store (.alreadyExists _ _) => updateAnalysis services a
    | e => throw e

def findGroups (services : Services) (project : String) (kind : FailureKind)
    (signature : FailureSignature) : Engine (List FailureGroup) :=
  read services .findFailureGroups fun s => s.findGroups project kind signature

def createGroup (services : Services) (g : FailureGroup) : Engine Unit :=
  write services .createFailureGroup fun s => s.createGroup g

def updateGroup (services : Services) (g : FailureGroup) : Engine Unit :=
  write services .updateFailureGroup fun s => s.updateGroup g

def tryJob? (services : Services) (key : FailureKey) : Engine (Option TryJob) :=
  read services .getTryJob fun s => s.tryJob? key

def tryJobWithId? (services : Services) (tryJobId : String) : Engine (Option TryJob) :=
  read services .findTryJobById fun s => s.tryJobWithId? tryJobId

def claimTryJob (services : Services) (key : FailureKey) (now : Instant) (staleAfter : Span) :
    Engine TryJobClaim := do
  match ← access services .claimTryJob fun s => .ok (s.claimTryJob key now staleAfter) with
  | some claim => return claim
  | none => throw .outOfRange

def updateTryJob (services : Services) (job : TryJob) : Engine Unit :=
  write services .updateTryJob fun s => s.updateTryJob job

def flake? (services : Services) (key : String) : Engine (Option FlakeAggregate) :=
  read services .getFlakeAggregate fun s => s.flake? key

def putFlake (services : Services) (key : String) (aggregate : FlakeAggregate) : Engine Unit :=
  write services .putFlakeAggregate fun s => .ok (s.putFlake key aggregate)

end Engine

end CulpritFinding
