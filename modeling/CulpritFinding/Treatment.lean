import CulpritFinding.Bisection
import CulpritFinding.Group

namespace CulpritFinding.FailureKind

def handlesStep (kind : FailureKind) (config : Config) (step : String) : Bool :=
  match kind with
  | compile => config.isCompileStep step
  | test => !config.isCompileStep step

def signature (kind : FailureKind) (steps : List FailedStep) (signals : FailureSignals) :
    FailureSignature :=
  .ofNodes <| match kind with
    | compile => (steps.filterMap fun step => signals.get? step.stepName).flatMap fun s =>
        s.signal.failedOutputNodes.toList
    | test => (steps.filter (·.supported)).flatMap fun step =>
        step.tests.keys.map fun t => step.stepName ++ "/" ++ t

/-- The steps that one try job verifies. A build compiles once, so that only its first new compile
failure is bisected; all new failures with known tests go into one try job. -/
def tryJobSteps (kind : FailureKind) (build : Build) (steps : List FailedStep) : List FailedStep :=
  match kind with
  | compile => (steps.find? (needsTryJob build)).toList
  | test => steps.filter fun step => needsTryJob build step && !step.tests.isEmpty

end CulpritFinding.FailureKind
