import CulpritFinding.Json.Format

namespace CulpritFinding

structure FailureRef where
  stepName : String
  testName : Option String
  deriving DecidableEq

namespace FailureRef

def ofStep (step : String) : FailureRef := ⟨step, none⟩

def ofTest (step test : String) : FailureRef := ⟨step, some test⟩

/-- The failures are ordered by step, then by test, a step standing before its tests. -/
def sortKey (f : FailureRef) : List (List Char) :=
  f.stepName.toList :: f.testName.toList.map (·.toList)

theorem sortKey_injective {f g : FailureRef} (h : f.sortKey = g.sortKey) : f = g := by
  obtain ⟨step, test⟩ := f
  obtain ⟨step', test'⟩ := g
  simp only [sortKey, List.cons.injEq, String.toList_inj] at h
  obtain ⟨rfl, h⟩ := h
  cases test <;> cases test' <;> simp_all [String.toList_inj]

instance : SortKey FailureRef := .ofInjective sortKey sortKey_injective

def format : Format FailureRef := .record <|
  Shape.pure FailureRef.mk
    |>.required "step_name" .text (·.stepName)
    |>.optional "test_name" .text (·.testName)

end FailureRef

abbrev Hints := SortedMap String Nat

structure Suspect where
  repoName : String
  revision : String
  commitPosition : Option Int
  buildNumber : Int
  score : Nat
  hints : Hints
  failures : List FailureRef
  deriving DecidableEq

def isGreater : Option Int → Option Int → Bool
  | none, _ => false
  | some _, none => true
  | some a, some b => b < a

namespace Suspect

/-- Whether a suspect ranks before another: by higher score, then by newer commit, then by
revision. -/
def ranksBefore (s t : Suspect) : Bool :=
  if s.score = t.score then
    if s.commitPosition = t.commitPosition then SortKey.before s.revision t.revision
    else isGreater s.commitPosition t.commitPosition
  else t.score < s.score

def rank (suspects : List Suspect) : List Suspect :=
  suspects.mergeSort fun s t => !t.ranksBefore s

def addFailure (s : Suspect) (failure : FailureRef) : Suspect :=
  if failure ∈ s.failures then s
  else { s with
    failures := (s.failures ++ [failure]).mergeSort fun f g => !SortKey.before g f }

def format : Format Suspect := .record <|
  Shape.pure Suspect.mk
    |>.required "repo_name" .text (·.repoName)
    |>.required "revision" .text (·.revision)
    |>.optional "commit_position" .int64 (·.commitPosition)
    |>.required "build_number" .int64 (·.buildNumber)
    |>.required "score" .nat32 (·.score)
    |>.withDefault "hints" (.map .nat32) (·.hints) .empty
    |>.withDefault "failures" (.list FailureRef.format) (·.failures) []

end Suspect

structure StepSuspects where
  stepName : String
  suspects : List Suspect
  tests : SortedMap String (List Suspect)
  deriving DecidableEq

namespace StepSuspects

def format : Format StepSuspects := .record <|
  Shape.pure StepSuspects.mk
    |>.required "step_name" .text (·.stepName)
    |>.required "suspects" (.list Suspect.format) (·.suspects)
    |>.withDefault "tests" (.map (.list Suspect.format)) (·.tests) .empty

end StepSuspects

inductive CulpritSource
  | heuristic
  | tryJob
  deriving DecidableEq

namespace CulpritSource

def name : CulpritSource → String
  | heuristic => "HEURISTIC"
  | tryJob => "TRY_JOB"

def format : Format CulpritSource := .enum [heuristic, tryJob] name

end CulpritSource

structure Culprit where
  repoName : String
  revision : String
  commitPosition : Option Int
  source : CulpritSource
  failures : List String
  deriving DecidableEq

namespace Culprit

def format : Format Culprit := .record <|
  Shape.pure Culprit.mk
    |>.required "repo_name" .text (·.repoName)
    |>.required "revision" .text (·.revision)
    |>.optional "commit_position" .int64 (·.commitPosition)
    |>.required "source" CulpritSource.format (·.source)
    |>.withDefault "failures" (.list .text) (·.failures) []

end Culprit

end CulpritFinding
