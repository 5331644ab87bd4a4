import CulpritFinding.Analyzer
import CulpritFinding.CommandLine.Invocation
import CulpritFinding.Flake.Aggregation
import CulpritFinding.Json.Reader
import CulpritFinding.Recording
import CulpritFinding.Verdict

namespace CulpritFinding.CommandLine

structure Surroundings where
  env : Variables
  fileText : String → Option String
  now : Instant
  freshGroupId : GroupId

inductive Outcome
  | printed (value : Json) (events : List Metric)
  | help
  | misused (reason : String)
  | failed (reason : String)
  | stopped

namespace Outcome

def exitCode : Outcome → UInt32
  | printed _ _ | help => 0
  | failed _ => 1
  | misused _ => 2
  | stopped => 101

def ofStop : Stop → Outcome
  | .help => help
  | .misuse reason => misused reason

def ofAction {α : Type} (showsMetrics : Bool) (action : Engine α)
    (write : α → EngineState → Json) : Outcome :=
  match action.run.run .initial with
  | (.ok v, state) => printed (write v state) (if showsMetrics then state.metrics else [])
  | (.error .outOfRange, _) => stopped
  | (.error e, _) => failed e.message

end Outcome

def readFile {α : Type} (s : Surroundings) (format : Format α) (path : String) :
    Except Outcome α :=
  match s.fileText path with
  | none => .error (.failed ("cannot read " ++ path))
  | some text =>
    match (Json.parse? text).bind format.read? with
    | none => .error (.failed ("malformed " ++ path))
    | some v => .ok v

def readConfig (s : Surroundings) : Option String → Except Outcome Config
  | some path => readFile s Config.format path
  | none => .ok (.ofVariables s.env)

structure ReportFile where
  range : TryJobRange
  report : TryJobReport
  deriving DecidableEq

def ReportFile.format : Format ReportFile := .record <|
  Shape.pure ReportFile.mk
    |>.required "range" TryJobRange.format (·.range)
    |>.required "report" TryJobReport.format (·.report)

def noDatabase : Outcome := .failed "cannot connect to the database"

def refuseDatabase (database : Option String) : Except Outcome Unit :=
  if database.isSome then .error noDatabase else .ok ()

def writeOutcome (outcome : AnalysisOutcome) (state : EngineState) : Json :=
  .object
    [("analysis", Analysis.format.write outcome.analysis),
     ("try_job", TryJob.format.option.write outcome.tryJob),
     ("try_job_requests", TryJobRequest.format.list.write state.acceptedRequests)]

def Invocation.run (s : Surroundings) (i : Invocation) : Except Outcome Outcome := do
  let config ← readConfig s i.config
  match i.command with
  | .analyze path key database =>
    let recording ← readFile s Recording.format path
    refuseDatabase database
    let request : AnalysisRequest := ⟨key, recording.logs, s.now, s.now, s.freshGroupId⟩
    return .ofAction i.showsMetrics (analyzeFailure (recording.services config) request)
      writeOutcome
  | .identifyCulprit path kind =>
    let file ← readFile s ReportFile.format path
    let verdict := identifyCulprit kind file.report file.range
    let events := if i.showsMetrics then [.verdictRecorded verdict.outcome] else []
    return .printed verdict.toJson events
  | .aggregateFlakes path stop database =>
    let occurrences ← readFile s FlakeOccurrence.format.list path
    refuseDatabase database
    let services := Recording.services ⟨[], [], .empty, .empty⟩ config
    return .ofAction i.showsMetrics
      (CulpritFinding.aggregateFlakes services occurrences (stop.getD s.now))
      fun aggregates _ => (Format.map FlakeAggregate.format).write aggregates
  | .migrate _ => throw noDatabase

def run (s : Surroundings) (args : List String) : Outcome :=
  match Invocation.parse s.env args with
  | .error stop => .ofStop stop
  | .ok invocation =>
    match invocation.run s with
    | .ok outcome | .error outcome => outcome

end CulpritFinding.CommandLine
