import CulpritFinding.Config
import CulpritFinding.Failure.Step
import CulpritFinding.History

namespace CulpritFinding

def initialFailedSteps (config : Config) (build : Build) (isIncluded : String → Bool) :
    List FailedStep :=
  (build.failedSteps.toList.filter isIncluded).map fun name =>
    let step := FailedStep.new name build.buildNumber (config.isSupportedStep name)
    match build.failedTestsOf? name with
    | some tests => step.withTests tests.toList
    | none => step

namespace TestFailure

def markPassed (t : TestFailure) (number : Int) : TestFailure :=
  if t.lastPass.isNone then { t with lastPass := some number } else t

def tighten (t : TestFailure) (failed : Bool) (number : Int) : TestFailure :=
  if t.lastPass.isSome then t
  else if failed then { t with firstFailure := number }
  else { t with lastPass := some number }

end TestFailure

namespace FailedStep

def markPassed (s : FailedStep) (number : Int) : FailedStep :=
  { s with
    lastPass := some number
    tests := s.tests.map fun _ t => t.markPassed number }

/-- A step failed in an earlier build. Its tests are left alone where the build did not report
which of them failed. -/
def markFailed (s : FailedStep) (build : Build) (number : Int) : FailedStep :=
  { s with
    firstFailure := number
    tests := match build.failedTestsOf? s.stepName with
      | none => s.tests
      | some failing => s.tests.map fun _ t => t.tighten (failing.contains t.testName) number }

/-- What an earlier build says about a step. Once a pass is known, earlier builds say nothing. -/
def observe (s : FailedStep) (build : Build) : FailedStep :=
  if s.lastPass.isSome then s
  else if build.result = .success || build.stepPassed s.stepName then
    s.markPassed build.buildNumber
  else if build.stepFailed s.stepName then s.markFailed build build.buildNumber
  else s

end FailedStep

structure RegressionRange where
  failedSteps : List FailedStep
  builds : SortedMap Int Build
  deriving DecidableEq

namespace RegressionRange

def step? (r : RegressionRange) (name : String) : Option FailedStep :=
  r.failedSteps.find? fun s => s.stepName = name

def observe (r : RegressionRange) (build : Build) : RegressionRange where
  failedSteps := r.failedSteps.map (·.observe build)
  builds := r.builds.insert build.buildNumber build

def isOpen (r : RegressionRange) : Bool := r.failedSteps.any (·.lastPass.isNone)

def extend (lookUp : Int → Id (Except ProviderError (Option Build))) (r : RegressionRange)
    (walk : PreviousBuilds) : RegressionRange :=
  if r.isOpen then
    match _h : walk.step lookUp with
    | (.ok (some build), rest) => (r.observe build).extend lookUp rest
    | (.ok none, _) => r
    | (.error _, _) => r
  else r
termination_by walk.remaining
decreasing_by
  have := walk.remaining_step_lt lookUp
  simp_all

end RegressionRange

/-- The regression range of the failing steps of a build, if there can be a walk before it. A build
that cannot be looked up ends the walk with what is known so far. -/
def findRegressionRange? (history : BuildHistory) (config : Config) (current : Build)
    (steps : List FailedStep) : Option RegressionRange := do
  let walk ← PreviousBuilds.before? current.buildNumber config.maxBuildsToCheck
  return RegressionRange.extend (history current.project current.builder)
    ⟨steps, .ofList [(current.buildNumber, current)]⟩ walk

end CulpritFinding
