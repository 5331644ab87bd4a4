import CulpritFinding.Failure.Kind

namespace CulpritFinding

structure FailureSignature where
  nodes : SortedSet String
  deriving DecidableEq

namespace FailureSignature

def ofNodes (nodes : List String) : FailureSignature := ⟨.ofList (nodes.filter (· ≠ ""))⟩

def isEmpty (s : FailureSignature) : Bool := s.nodes.isEmpty

def format : Format FailureSignature := Format.set .text |>.iso FailureSignature.mk (·.nodes)

end FailureSignature

structure CommitRef where
  revision : String
  commitPosition : Option Int
  deriving DecidableEq

namespace CommitRef

def format : Format CommitRef := .record <|
  Shape.pure CommitRef.mk
    |>.required "revision" .text (·.revision)
    |>.optional "commit_position" .int64 (·.commitPosition)

end CommitRef

structure RegressionWindow where
  lastPassed : Option CommitRef
  firstFailed : CommitRef
  deriving DecidableEq

namespace RegressionWindow

/-- The commit positions of a window: above the first number, and up to the second. Without a last
pass, the first failure is the only commit. -/
def positions? (w : RegressionWindow) : Option (Int × Int) := do
  let high ← w.firstFailed.commitPosition
  match w.lastPassed with
  | none => return (high - 1, high)
  | some commit => return (← commit.commitPosition, high)

/-- Whether the commit position fits that stands for an unknown last pass. -/
def isBounded (w : RegressionWindow) : Bool :=
  w.lastPassed.isSome || w.firstFailed.commitPosition.all fun high => fitsInt64 (high - 1)

/-- Whether two windows share a commit. Where commit positions are missing, whether the same
commit failed first. -/
def overlaps (w w' : RegressionWindow) : Bool :=
  match w.positions?, w'.positions? with
  | some (low, high), some (low', high') => low < high' && low' < high
  | _, _ => w.firstFailed.revision = w'.firstFailed.revision

def overlaps? (w w' : RegressionWindow) : Option Bool :=
  if w.isBounded && w'.isBounded then some (w.overlaps w') else none

end RegressionWindow

structure FailureGroup where
  id : GroupId
  project : String
  bucket : String
  kind : FailureKind
  representative : BuildKey
  representativeBuildId : Option Int
  lastPassed : Option CommitRef
  firstFailed : CommitRef
  signature : FailureSignature
  members : List BuildKey
  createdAt : Instant
  deriving DecidableEq

namespace FailureGroup

def window (g : FailureGroup) : RegressionWindow := ⟨g.lastPassed, g.firstFailed⟩

def addMember (g : FailureGroup) (build : BuildKey) : FailureGroup :=
  if build ∈ g.members then g else { g with members := g.members ++ [build] }

def format : Format FailureGroup := .record <|
  Shape.pure FailureGroup.mk
    |>.required "id" .groupId (·.id)
    |>.required "project" .text (·.project)
    |>.required "bucket" .text (·.bucket)
    |>.required "kind" FailureKind.format (·.kind)
    |>.required "representative_build" BuildKey.format (·.representative)
    |>.optional "representative_build_id" .int64 (·.representativeBuildId)
    |>.optional "last_passed_commit" CommitRef.format (·.lastPassed)
    |>.required "first_failed_commit" CommitRef.format (·.firstFailed)
    |>.required "output_nodes" FailureSignature.format (·.signature)
    |>.withDefault "member_failure_keys" (.list BuildKey.format) (·.members) []
    |>.required "created_at" .instant (·.createdAt)

end FailureGroup

end CulpritFinding
