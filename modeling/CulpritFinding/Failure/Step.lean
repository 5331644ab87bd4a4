import CulpritFinding.Json.Format

namespace CulpritFinding

structure BuildRange where
  start : Int
  stop : Int
  deriving DecidableEq

namespace BuildRange

def contains (r : BuildRange) (number : Int) : Bool := r.start ≤ number && number ≤ r.stop

def isEmpty (r : BuildRange) : Bool := r.stop < r.start

/-- The builds whose commits may have caused a failure: those after the last pass, or from the
first failure on where no pass is known, up to the failure at hand. -/
def ofSuspects (lastPass : Option Int) (firstFailure currentFailure : Int) : BuildRange :=
  ⟨match lastPass with
    | some pass => pass + 1
    | none => firstFailure, currentFailure⟩

/-- Whether the number after a last pass fits. -/
def startsInRange (lastPass : Option Int) : Bool := lastPass.all fun pass => fitsInt64 (pass + 1)

end BuildRange

structure TestFailure where
  testName : String
  currentFailure : Int
  firstFailure : Int
  lastPass : Option Int
  deriving DecidableEq

namespace TestFailure

def new (testName : String) (currentFailure : Int) : TestFailure :=
  ⟨testName, currentFailure, currentFailure, none⟩

def suspectRange (t : TestFailure) : BuildRange :=
  .ofSuspects t.lastPass t.firstFailure t.currentFailure

def format : Format TestFailure := .record <|
  Shape.pure TestFailure.mk
    |>.required "test_name" .text (·.testName)
    |>.required "current_failure" .int64 (·.currentFailure)
    |>.required "first_failure" .int64 (·.firstFailure)
    |>.and (.field "last_pass" (.option .int64) (·.lastPass) .nameOnly)

end TestFailure

structure FailedStep where
  stepName : String
  currentFailure : Int
  firstFailure : Int
  lastPass : Option Int
  supported : Bool
  tests : SortedMap String TestFailure
  deriving DecidableEq

namespace FailedStep

def new (stepName : String) (currentFailure : Int) (supported : Bool) : FailedStep :=
  ⟨stepName, currentFailure, currentFailure, none, supported, .empty⟩

def withTests (s : FailedStep) (tests : List String) : FailedStep :=
  { s with
    tests := tests.foldl (fun m t => m.insert t (TestFailure.new t s.currentFailure)) s.tests }

def isNewFailure (s : FailedStep) : Bool := s.firstFailure = s.currentFailure

def suspectRange (s : FailedStep) : BuildRange :=
  .ofSuspects s.lastPass s.firstFailure s.currentFailure

def format : Format FailedStep := .record <|
  Shape.pure FailedStep.mk
    |>.required "step_name" .text (·.stepName)
    |>.required "current_failure" .int64 (·.currentFailure)
    |>.required "first_failure" .int64 (·.firstFailure)
    |>.and (.field "last_pass" (.option .int64) (·.lastPass) .nameOnly)
    |>.required "supported" .flag (·.supported)
    |>.withDefault "tests" (.map TestFailure.format) (·.tests) .empty

end FailedStep

end CulpritFinding
