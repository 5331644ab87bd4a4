import CulpritFinding.Json.Format

namespace CulpritFinding

structure BuildKey where
  project : String
  builder : String
  buildNumber : Int
  deriving DecidableEq

namespace BuildKey

def text (k : BuildKey) : String := k.project ++ "/" ++ k.builder ++ "/" ++ intText k.buildNumber

def format : Format BuildKey := .record <|
  Shape.pure BuildKey.mk
    |>.required "project" .text (·.project)
    |>.required "builder" .text (·.builder)
    |>.required "build_number" .int64 (·.buildNumber)

end BuildKey

inductive BuildResult
  | success
  | failure
  | infraFailure
  | canceled
  | running
  deriving DecidableEq

namespace BuildResult

def name : BuildResult → String
  | success => "SUCCESS"
  | failure => "FAILURE"
  | infraFailure => "INFRA_FAILURE"
  | canceled => "CANCELED"
  | running => "RUNNING"

def all : List BuildResult := [success, failure, infraFailure, canceled, running]

def format : Format BuildResult := .enum all name

end BuildResult

structure Build where
  project : String
  bucket : String
  builder : String
  buildNumber : Int
  buildId : Option Int
  result : BuildResult
  revision : String
  commitPosition : Option Int
  blameList : List String
  failedSteps : SortedSet String
  passedSteps : SortedSet String
  /-- The failing tests of a step. A step without an entry did not say which tests failed. -/
  failedTests : SortedMap String (SortedSet String)
  startTime : Option Instant
  deriving DecidableEq

namespace Build

def key (b : Build) : BuildKey := ⟨b.project, b.builder, b.buildNumber⟩

def isCompleted (b : Build) : Bool := b.result ≠ .running

def stepFailed (b : Build) (step : String) : Bool := b.failedSteps.contains step

def stepPassed (b : Build) (step : String) : Bool := b.passedSteps.contains step

def failedTestsOf? (b : Build) (step : String) : Option (SortedSet String) :=
  b.failedTests.get? step

def format : Format Build := .record <|
  Shape.pure Build.mk
    |>.required "project" .text (·.project)
    |>.withDefault "bucket" .text (·.bucket) "ci"
    |>.required "builder" .text (·.builder)
    |>.required "build_number" .int64 (·.buildNumber)
    |>.optional "build_id" .int64 (·.buildId)
    |>.required "result" BuildResult.format (·.result)
    |>.required "revision" .text (·.revision)
    |>.optional "commit_position" .int64 (·.commitPosition)
    |>.withDefault "blame_list" (.list .text) (·.blameList) []
    |>.withDefault "failed_steps" (.set .text) (·.failedSteps) .empty
    |>.withDefault "passed_steps" (.set .text) (·.passedSteps) .empty
    |>.withDefault "failed_tests" (.map (.set .text)) (·.failedTests) .empty
    |>.optional "start_time" .instant (·.startTime)

end Build

end CulpritFinding
