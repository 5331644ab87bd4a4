import CulpritFinding.Json.Format

namespace CulpritFinding

inductive FlakeType
  | cqFalseRejection
  | retryWithPatch
  | cqHiddenFlake
  | ciFailedStep
  deriving DecidableEq

namespace FlakeType

def all : List FlakeType := [cqFalseRejection, retryWithPatch, cqHiddenFlake, ciFailedStep]

def index : FlakeType → Nat
  | cqFalseRejection => 0
  | retryWithPatch => 1
  | cqHiddenFlake => 2
  | ciFailedStep => 3

instance : SortKey FlakeType := .ofInjective index fun {a b} h => by
  cases a <;> cases b <;> first | rfl | cases h

def text : FlakeType → String
  | cqFalseRejection => "cq_false_rejection"
  | retryWithPatch => "retry_with_patch"
  | cqHiddenFlake => "cq_hidden_flake"
  | ciFailedStep => "ci_failed_step"

def name : FlakeType → String
  | cqFalseRejection => "CQ_FALSE_REJECTION"
  | retryWithPatch => "RETRY_WITH_PATCH"
  | cqHiddenFlake => "CQ_HIDDEN_FLAKE"
  | ciFailedStep => "CI_FAILED_STEP"

def format : Format FlakeType := .enum all name

def mapFormat {ν : Type} (f : Format ν) : Format (SortedMap FlakeType ν) :=
  .mapBy name (Format.named? all name) f

end FlakeType

/-- The number of no change: it stands in occurrences that do not belong to a change. -/
def noChange : Int := 0

structure FlakeOccurrence where
  flakeType : FlakeType
  buildId : Int
  stepName : String
  testName : String
  timeHappened : Instant
  changeId : Int
  deriving DecidableEq

namespace FlakeOccurrence

def hasChange (o : FlakeOccurrence) : Bool := o.changeId ≠ noChange

def format : Format FlakeOccurrence := .record <|
  Shape.pure FlakeOccurrence.mk
    |>.required "flake_type" FlakeType.format (·.flakeType)
    |>.required "build_id" .int64 (·.buildId)
    |>.withDefault "step_name" .text (·.stepName) ""
    |>.withDefault "test_name" .text (·.testName) ""
    |>.required "time_happened" .instant (·.timeHappened)
    |>.withDefault "gerrit_cl_id" .int64 (·.changeId) noChange

end FlakeOccurrence

structure FlakeTypeCount where
  occurrences : Int
  /-- The number of distinct changes, or -1 where no occurrence belongs to a change. -/
  impactedChanges : Int
  deriving DecidableEq

namespace FlakeTypeCount

def score? (c : FlakeTypeCount) (weight : Int) : Option Int :=
  int64? ((if c.impactedChanges < 0 then c.occurrences else c.impactedChanges) * weight)

def format : Format FlakeTypeCount := .record <|
  Shape.pure FlakeTypeCount.mk
    |>.required "occurrence_count" .int64 (·.occurrences)
    |>.required "impacted_cl_count" .int64 (·.impactedChanges)

end FlakeTypeCount

structure FlakeAggregate where
  counts : SortedMap FlakeType FlakeTypeCount
  score : Int
  windowStart : Instant
  windowEnd : Instant
  lastOccurred : Option Instant
  deriving DecidableEq

namespace FlakeAggregate

def occurrences (a : FlakeAggregate) (t : FlakeType) : Int :=
  ((a.counts.get? t).map (·.occurrences)).getD 0

def impactedChanges (a : FlakeAggregate) (t : FlakeType) : Int :=
  ((a.counts.get? t).map (·.impactedChanges)).getD 0

def format : Format FlakeAggregate := .record <|
  Shape.pure FlakeAggregate.mk
    |>.required "counts" (FlakeType.mapFormat FlakeTypeCount.format) (·.counts)
    |>.required "score" .int64 (·.score)
    |>.required "window_start" .instant (·.windowStart)
    |>.required "window_end" .instant (·.windowEnd)
    |>.optional "last_occurred_time" .instant (·.lastOccurred)

end FlakeAggregate

end CulpritFinding
