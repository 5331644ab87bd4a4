import CulpritFinding.Bisection
import CulpritFinding.Verdict

namespace CulpritFinding

def TryJob.verdict (j : TryJob) : Verdict :=
  match j.latestReport?, j.range with
  | some report, some range => identifyCulprit j.key.kind report range
  | _, _ => .inconclusive "try job finished without a report"

def TryJob.hasReport (j : TryJob) : Bool := j.latestReport?.isSome && j.range.isSome

namespace Analysis

def culpritAt (a : Analysis) (failure revision : String) : Culprit :=
  let suspect := a.suspects.find? fun s => s.revision = revision
  { repoName := (suspect.map (·.repoName)).getD a.key.build.project
    revision
    commitPosition := suspect.bind (·.commitPosition)
    source := .tryJob
    failures := [failure] }

/-- Lays a failure to a revision: to the culprit with the revision, if there is one among those that
were found, or else to a new one. -/
def blame (a : Analysis) (failure revision : String) : List Culprit → List Culprit
  | [] => [a.culpritAt failure revision]
  | c :: rest =>
    if c.revision = revision then { c with failures := c.failures ++ [failure] } :: rest
    else c :: a.blame failure revision rest

def culpritsOf (a : Analysis) (guilty : SortedMap String String) : List Culprit :=
  guilty.toList.foldl (fun found e => a.blame e.1 e.2 found) []

def withVerdict (a : Analysis) (verdict : Verdict) (now : Instant) : Analysis :=
  let ruled := match verdict with
    | .found guilty _ =>
      { a with culprits := a.culpritsOf guilty, result := some .found }.after .completed
    | .flaky _ =>
      { a with flaky := true, autoActionAllowed := false, result := some .flaky }.after
        .flakeDetected
    | .inconclusive _ => a.after .completed
  { ruled with endTime := some now }

def follow (a : Analysis) (job : TryJob) (now : Instant) : Analysis :=
  match job.status with
  | .pending => a
  | .running => a.after .started
  | .error => a.after (.failed (job.error.getD ""))
  | .completed => a.withVerdict job.verdict now

end Analysis

structure FollowUp where
  update : TryJobUpdate
  verdict : Option Verdict
  analysis : Option Analysis
  deriving DecidableEq

def followTryJob (services : Services) (tryJobId : String) (status : ExternalStatus)
    (now : Instant) : Engine FollowUp := do
  let update ← updateTryJob services tryJobId status now
  match update with
  | .ignored _ => return ⟨update, none, none⟩
  | .updated job =>
    match ← Engine.analysis? services job.key with
    | none => return ⟨update, none, none⟩
    | some a =>
      let verdict := if job.status = .completed then some job.verdict else none
      if job.hasReport then verdict.forM fun v => Engine.record (.verdictRecorded v.outcome)
      let a := a.follow job now
      Engine.updateAnalysis services a
      return ⟨update, verdict, some a⟩

def pollTryJob (services : Services) (tryJobId : String) (now : Instant) : Engine FollowUp :=
  match services.scheduler.status tryJobId with
  | .ok status => followTryJob services tryJobId status now
  | .error e => throw (.tryJobScheduling tryJobId e)

end CulpritFinding
