import CulpritFinding.Analysis
import CulpritFinding.Error
import CulpritFinding.Flake.Basic
import CulpritFinding.Group
import CulpritFinding.Table
import CulpritFinding.TryJob.Basic

namespace CulpritFinding

structure Store where
  analyses : Table FailureKey Analysis
  groups : List FailureGroup
  tryJobs : Table FailureKey TryJob
  tryJobOwners : Table String FailureKey
  flakes : Table String FlakeAggregate
  deriving DecidableEq

namespace Store

def empty : Store := ⟨.empty, [], .empty, .empty, .empty⟩

def analysis? (s : Store) (key : FailureKey) : Option Analysis := s.analyses.get? key

def createAnalysis (s : Store) (a : Analysis) : Except StoreError Store :=
  if (s.analyses.get? a.key).isSome then .error (.alreadyExists .analysis a.key.text)
  else .ok { s with analyses := s.analyses.put a.key a }

def updateAnalysis (s : Store) (a : Analysis) : Except StoreError Store :=
  if (s.analyses.get? a.key).isSome then .ok { s with analyses := s.analyses.put a.key a }
  else .error (.notFound .analysis a.key.text)

def findGroups (s : Store) (project : String) (kind : FailureKind) (signature : FailureSignature) :
    List FailureGroup :=
  s.groups.filter fun g => g.project = project && g.kind = kind && g.signature = signature

def createGroup (s : Store) (g : FailureGroup) : Except StoreError Store :=
  if s.groups.any fun g' => g'.id = g.id then .error (.alreadyExists .failureGroup g.id.text)
  else .ok { s with groups := s.groups ++ [g] }

def replaceGroup (g : FailureGroup) : List FailureGroup → List FailureGroup
  | [] => []
  | g' :: rest => if g'.id = g.id then g :: rest else g' :: replaceGroup g rest

def updateGroup (s : Store) (g : FailureGroup) : Except StoreError Store :=
  if s.groups.any fun g' => g'.id = g.id then .ok { s with groups := replaceGroup g s.groups }
  else .error (.notFound .failureGroup g.id.text)

def tryJob? (s : Store) (key : FailureKey) : Option TryJob := s.tryJobs.get? key

def tryJobWithId? (s : Store) (tryJobId : String) : Option TryJob :=
  (s.tryJobOwners.get? tryJobId).bind s.tryJobs.get?

/-- Claims the try job under a key: creates it, or revives it where it has ended or its claim is
stale. Any other try job is in flight, and nothing is changed. There is no answer where it has had
as many attempts as can be counted. -/
def claimTryJob (s : Store) (key : FailureKey) (now : Instant) (staleAfter : Span) :
    Option TryJobClaim × Store :=
  match s.tryJobs.get? key with
  | none =>
    let job := TryJob.new key now
    (some (.created job), { s with tryJobs := s.tryJobs.put key job })
  | some job =>
    if job.status.isTerminal || job.isStaleClaim now staleAfter then
      match job.revive? now with
      | some job => (some (.revived job), { s with tryJobs := s.tryJobs.put key job })
      | none => (none, s)
    else (some (.inFlight job), s)

def updateTryJob (s : Store) (job : TryJob) : Except StoreError Store :=
  if (s.tryJobs.get? job.key).isSome then
    .ok { s with
      tryJobs := s.tryJobs.put job.key job
      tryJobOwners := job.tryJobIds.foldl (fun t id => t.put id job.key) s.tryJobOwners }
  else .error (.notFound .tryJob job.key.text)

def flake? (s : Store) (key : String) : Option FlakeAggregate := s.flakes.get? key

def putFlake (s : Store) (key : String) (aggregate : FlakeAggregate) : Store :=
  { s with flakes := s.flakes.put key aggregate }

end Store

end CulpritFinding
