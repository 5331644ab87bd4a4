import CulpritFinding.Build
import CulpritFinding.ChangeLog
import CulpritFinding.Config
import CulpritFinding.Failure.Signal
import CulpritFinding.Failure.Step
import CulpritFinding.Path
import CulpritFinding.Suspect

namespace CulpritFinding

namespace Hints

def score (h : Hints) : Nat := h.values.foldr (· + ·) 0

def add (h : Hints) (reason : String) (weight : Nat) : Hints :=
  if weight = 0 || h.contains reason then h else h.insert reason weight

end Hints

abbrev ChangeScorer := FailureSignal → ChangeLog → List DependencyRoll → Hints

structure FileOverlap where
  weights : HintWeights

namespace FileOverlap

/-- Whether a file of the evidence is one that a change is about. The old name of a renamed file
counts too. -/
def concerns (change : FileChange) (path file : String) : Bool :=
  Path.correspond path.toList file.toList
    || (change.changeType = .rename
      && change.oldPath.any fun old => Path.correspond old.toList file.toList)

def mentionedLines? (signal : FailureSignal) (change : FileChange) (path : String) :
    Option (List Nat) :=
  match signal.files.toList.filter fun e => concerns change path e.1 with
  | [] => none
  | mentions => some (SortedSet.ofList (mentions.flatMap (·.2))).toList

def mentionedHint (w : HintWeights) (change : FileChange) (path : String) (lines : List Nat) :
    String × Nat :=
  let inLog := " (and it was in log)"
  match change.changeType with
  | .add | .copy => ("added " ++ path ++ inLog, w.addedFile)
  | .delete => ("deleted " ++ path ++ inLog, w.deletedFile)
  | .rename =>
    ("renamed " ++ change.oldPath.getD path ++ " to " ++ path ++ inLog, w.renamedFile)
  | .modify =>
    if lines.isEmpty then ("modified " ++ path ++ inLog, w.modifiedFile)
    else ("modified " ++ path ++ "[" ++ ", ".intercalate (lines.map natText) ++ "]" ++ inLog,
      w.modifiedFile + w.modifiedFileWithLines)

def fileHint? (w : HintWeights) (signal : FailureSignal) (change : FileChange) :
    Option (String × Nat) := do
  let path ← change.path?
  match mentionedLines? signal change path with
  | some lines => return mentionedHint w change path lines
  | none =>
    let file ← signal.files.keys.find? fun file => Path.isRelated path.toList file.toList
    return ("modified " ++ path ++ " (related to " ++ file ++ ")", w.relatedFile)

def mentionsDependency (signal : FailureSignal) (roll : DependencyRoll) : Bool :=
  let place := (roll.depPath.toList.reverse.dropWhile (· == '/')).reverse ++ ['/']
  signal.files.keys.any fun file => place.isPrefixOf file.toList

def rollHint? (w : HintWeights) (signal : FailureSignal) (roll : DependencyRoll) :
    Option (String × Nat) :=
  if mentionsDependency signal roll then
    some ("rolled dep " ++ roll.depPath ++ " from " ++ roll.oldRevision.getD "none" ++ " to "
      ++ roll.newRevision, w.dependencyRoll)
  else none

def hints (s : FileOverlap) : ChangeScorer := fun signal commit rolls =>
  let reasons := commit.touchedFiles.filterMap (fileHint? s.weights signal)
    ++ rolls.filterMap (rollHint? s.weights signal)
  if signal.files.isEmpty then .empty
  else reasons.foldl (fun h reason => h.add reason.1 reason.2) .empty

end FileOverlap

def suspectNone : ChangeScorer := fun _ _ _ => .empty

structure ScoringInput where
  failedSteps : List FailedStep
  builds : SortedMap Int Build
  changeLogs : ChangeLogs
  dependencies : DependencyRolls
  signals : FailureSignals

abbrev SuspectMap := SortedMap String Suspect

namespace SuspectMap

/-- Suspects with one more suspicion. A revision keeps its best score with the hints that gave it,
and collects failures. -/
def blame (m : SuspectMap) (candidate : Suspect) (failure : FailureRef) : SuspectMap :=
  m.upsert candidate.revision fun known =>
    let entry := known.getD { candidate with failures := [] }
    let best := if entry.score < candidate.score then
        { entry with score := candidate.score, hints := candidate.hints }
      else entry
    best.addFailure failure

def blameAll (m : SuspectMap) (candidates : List Suspect) (failure : FailureRef) : SuspectMap :=
  candidates.foldl (fun m c => m.blame c failure) m

def ranked (m : SuspectMap) : List Suspect := Suspect.rank m.values

end SuspectMap

def scoreBuild (scorer : ChangeScorer) (input : ScoringInput) (build : Build)
    (signal : FailureSignal) : List Suspect :=
  build.blameList.filterMap fun revision => do
    let commit ← input.changeLogs.get? revision
    let hints := scorer signal commit ((input.dependencies.get? revision).getD [])
    if hints.score = 0 then none
    else some {
      repoName := commit.repoName
      revision
      commitPosition := commit.commitPosition
      buildNumber := build.buildNumber
      score := hints.score
      hints
      failures := [] }

structure StepScores where
  suspects : SuspectMap
  tests : SortedMap String SuspectMap

namespace StepScores

def empty : StepScores := ⟨.empty, .empty⟩

def addTest (s : StepScores) (step test : String) (found : List Suspect) : StepScores :=
  if found.isEmpty then s
  else
    let failure := FailureRef.ofTest step test
    { suspects := s.suspects.blameAll found failure
      tests := s.tests.upsert test fun known => (known.getD .empty).blameAll found failure }

def testFindings (scorer : ChangeScorer) (input : ScoringInput) (step : FailedStep)
    (signal : StepSignal) (build : Build) (number : Int) : List (String × List Suspect) :=
  step.tests.toList.filterMap fun e => do
    let testSignal ← signal.tests.get? e.1
    if testSignal.isEmpty || !e.2.suspectRange.contains number then none
    else some (e.1, scoreBuild scorer input build testSignal)

/-- Scores with the suspects that one build brought in. Where the tests of the step give suspects,
the evidence on the step as a whole is not consulted. -/
def addBuild (scorer : ChangeScorer) (input : ScoringInput) (step : FailedStep)
    (signal : StepSignal) (s : StepScores) (number : Int) (build : Build) : StepScores :=
  let findings := testFindings scorer input step signal build number
  if findings.all fun f => f.2.isEmpty then
    let found := scoreBuild scorer input build signal.signal
    { s with suspects := s.suspects.blameAll found (.ofStep step.stepName) }
  else findings.foldl (fun s f => s.addTest step.stepName f.1 f.2) s

def ofStep (scorer : ChangeScorer) (input : ScoringInput) (step : FailedStep)
    (signal : StepSignal) : StepScores :=
  (input.builds.toList.filter fun e => step.suspectRange.contains e.1).foldl
    (fun s e => s.addBuild scorer input step signal e.1 e.2) empty

def ranked (s : StepScores) (step : String) : StepSuspects :=
  ⟨step, s.suspects.ranked, s.tests.map fun _ m => m.ranked⟩

end StepScores

structure ScoredSuspects where
  steps : List StepSuspects
  suspects : List Suspect
  deriving DecidableEq

def scoreSteps (scorer : ChangeScorer) (input : ScoringInput) : List (String × StepScores) :=
  (input.failedSteps.filter (·.supported)).filterMap fun step => do
    let signal ← input.signals.get? step.stepName
    if signal.isEmpty then none
    else some (step.stepName, .ofStep scorer input step signal)

def mergeSteps (steps : List (String × StepScores)) : SuspectMap :=
  (steps.flatMap fun s => s.2.suspects.values).foldl
    (fun m suspect => suspect.failures.foldl (fun m failure => m.blame suspect failure) m) .empty

def scoreSuspects (scorer : ChangeScorer) (input : ScoringInput) : ScoredSuspects :=
  let steps := scoreSteps scorer input
  ⟨steps.map fun s => s.2.ranked s.1, (mergeSteps steps).ranked⟩

/-- Whether the ranges fit that are gone through to score a step: its own, and for every build in it
those of its tests with evidence. -/
def StepScores.inRange (input : ScoringInput) (step : FailedStep) (signal : StepSignal) : Bool :=
  BuildRange.startsInRange step.lastPass &&
    (!(input.builds.toList.any fun e => step.suspectRange.contains e.1) ||
      step.tests.toList.all fun e =>
        ((signal.tests.get? e.1).all (·.isEmpty)) || BuildRange.startsInRange e.2.lastPass)

def ScoringInput.inRange (input : ScoringInput) : Bool :=
  (input.failedSteps.filter (·.supported)).all fun step =>
    (input.signals.get? step.stepName).all fun signal =>
      signal.isEmpty || StepScores.inRange input step signal

def scoreSuspects? (scorer : ChangeScorer) (input : ScoringInput) : Option ScoredSuspects :=
  if input.inRange then some (scoreSuspects scorer input) else none

end CulpritFinding
