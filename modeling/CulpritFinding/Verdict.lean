import CulpritFinding.Failure.Kind
import CulpritFinding.TryJob.Report

namespace CulpritFinding

inductive Verdict
  /-- The culprit of a failure, by `compile` or `step/test`, and the failures that are flaky. -/
  | found (culprits : SortedMap String String) (doubtful : SortedSet String)
  | flaky (failures : SortedSet String)
  | inconclusive (reason : String)
  deriving DecidableEq

namespace Verdict

def culpritRevisions : Verdict → SortedSet String
  | found culprits _ => .ofList culprits.values
  | _ => .empty

def isFlaky : Verdict → Bool
  | flaky _ => true
  | _ => false

def outcome : Verdict → String
  | found _ _ => "found"
  | flaky _ => "flaky"
  | inconclusive _ => "inconclusive"

def toJson (v : Verdict) : Json :=
  .object <| ("verdict", .text v.outcome) :: match v with
    | found culprits doubtful =>
      [("culprits", (Format.map .text).write culprits),
       ("flaky", (Format.set .text).write doubtful)]
    | flaky failures => [("failures", (Format.set .text).write failures)]
    | inconclusive reason => [("reason", .text reason)]

end Verdict

inductive ReportFault
  | repeatedRevision (revision : String)
  | unknownStatus (status revision : String)
  | untestedCulprit (revision : String)
  deriving DecidableEq

def ReportFault.message (f : ReportFault) : String :=
  "inconsistent try-job result: " ++ match f with
    | repeatedRevision revision => "revision " ++ revision ++ " reported twice"
    | unknownStatus status revision => "unknown status " ++ status ++ " at " ++ revision
    | untestedCulprit revision => "culprit " ++ revision ++ " was not tested"

def RevisionResult.statuses (r : RevisionResult) : List String :=
  r.status.toList ++ r.steps.values.map (·.status)

namespace TryJobReport

def resultFault? (seen : List String) : List RevisionResult → Option ReportFault
  | [] => none
  | r :: rest =>
    if r.revision ∈ seen then some (.repeatedRevision r.revision)
    else match r.statuses.find? fun s => s ≠ statusPassed && s ≠ statusFailed with
      | some status => some (.unknownStatus status r.revision)
      | none => resultFault? (r.revision :: seen) rest

/-- The fault of the culprit that a report names for all failures: where revisions were tested, the
culprit is one of them. -/
def culpritFault? (r : TryJobReport) : Option ReportFault := do
  let culprit ← r.culprit
  if !r.results.isEmpty && (r.resultAt? culprit).isNone then some (.untestedCulprit culprit)
  else none

def fault? (r : TryJobReport) : Option ReportFault := resultFault? [] r.results <|> r.culpritFault?

end TryJobReport

structure Trial where
  revision : String
  failed : Option Bool
  deriving DecidableEq

inductive Origin
  | culprit (revision : String)
  | flaky
  | undecided
  deriving DecidableEq

namespace Trial

def outcomeAt? (trials : List Trial) (revision : String) : Option Bool :=
  (trials.find? fun t => t.revision = revision).bind (·.failed)

def firstTurn? : List Trial → Option String
  | t :: t' :: rest =>
    if t.failed = some false && t'.failed = some true then some t'.revision
    else firstTurn? (t' :: rest)
  | _ => none

def origin (trials : List Trial) (good bad : String) : Origin :=
  if outcomeAt? trials good = some true || outcomeAt? trials bad = some false then .flaky
  else match firstTurn? trials with
    | some revision => .culprit revision
    | none => .undecided

end Trial

namespace TryJobReport

def compileTrials (r : TryJobReport) : List Trial :=
  r.results.map fun result => ⟨result.revision, result.status.map (· == statusFailed)⟩

/-- The trials of a test of a step; a step without a valid outcome shows nothing. -/
def testTrials (r : TryJobReport) (step test : String) : List Trial :=
  r.results.map fun result =>
    ⟨result.revision,
      ((result.steps.get? step).filter (·.valid)).map fun o => o.failures.contains test⟩

def compileVerdict (r : TryJobReport) (good bad : String) : Verdict :=
  let failure := FailureKind.compile.text
  match r.culprit with
  | some culprit => .found (.ofList [(failure, culprit)]) .empty
  | none =>
    match Trial.origin r.compileTrials good bad with
    | .culprit revision => .found (.ofList [(failure, revision)]) .empty
    | .flaky => .flaky (.ofList [failure])
    | .undecided => .inconclusive "no failing revision follows a passing one"

structure TestFindings where
  culprits : SortedMap String String
  flaky : SortedSet String
  deriving DecidableEq

def TestFindings.judge (r : TryJobReport) (good bad step : String) (f : TestFindings)
    (test : String) : TestFindings :=
  let failure := step ++ "/" ++ test
  if f.culprits.contains failure then f
  else match Trial.origin (r.testTrials step test) good bad with
    | .culprit revision => { f with culprits := f.culprits.insert failure revision }
    | .flaky => { f with flaky := f.flaky.insert failure }
    | .undecided => f

def testFindings (r : TryJobReport) (range : TryJobRange) (good bad : String) : TestFindings :=
  range.tests.toList.foldl
    (fun f e => e.2.foldl (TestFindings.judge r good bad e.1) f) ⟨r.culprits, .empty⟩

def testVerdict (r : TryJobReport) (range : TryJobRange) (good bad : String) : Verdict :=
  let findings := r.testFindings range good bad
  if !findings.culprits.isEmpty then .found findings.culprits findings.flaky
  else if !findings.flaky.isEmpty then .flaky findings.flaky
  else .inconclusive "no test reproduced between the good and bad revisions"

end TryJobReport

/-- The verdict of a report on the failures of a kind in a range. The good and bad revisions that
the report gives count more than those of the range. -/
def identifyCulprit (kind : FailureKind) (report : TryJobReport) (range : TryJobRange) : Verdict :=
  match report.fault? with
  | some fault => .inconclusive fault.message
  | none =>
    let good := report.goodRevision.getD range.goodRevision
    let bad := report.badRevision.getD range.badRevision
    match kind with
    | .compile => report.compileVerdict good bad
    | .test => report.testVerdict range good bad

end CulpritFinding
