import CulpritFinding.Engine

namespace CulpritFinding

structure GroupMembership where
  group : FailureGroup
  /-- Whether the failure speaks for the group, and did not join that of another build. -/
  isNew : Bool
  deriving DecidableEq

def FailureGroup.startedBy (build : Build) (id : GroupId) (kind : FailureKind)
    (signature : FailureSignature) (window : RegressionWindow) (now : Instant) : FailureGroup where
  id
  project := build.project
  bucket := build.bucket
  kind
  representative := build.key
  representativeBuildId := build.buildId
  lastPassed := window.lastPassed
  firstFailed := window.firstFailed
  signature
  members := [build.key]
  createdAt := now

def joinGroup (services : Services) (group : FailureGroup) (build : BuildKey) :
    Engine GroupMembership := do
  if group.representative = build then return ⟨group, true⟩
  else
    let joined := group.addMember build
    if build ∉ group.members then Engine.updateGroup services joined
    Engine.record (.failureGrouped "joined")
    return ⟨joined, false⟩

/-- Finds the group of a failure, or starts one under a fresh identifier. A failure without a
signature has no group. -/
def findOrCreateGroup (services : Services) (freshId : GroupId) (build : Build)
    (kind : FailureKind) (signature : FailureSignature) (window : RegressionWindow)
    (now : Instant) : Engine (Option GroupMembership) := do
  if signature.isEmpty then return none
  else
    let candidates ← Engine.findGroups services build.project kind signature
    match candidates.findM? fun g => g.window.overlaps? window with
    | none => throw .outOfRange
    | some (some group) => return some (← joinGroup services group build.key)
    | some none =>
      let group := FailureGroup.startedBy build freshId kind signature window now
      Engine.createGroup services group
      Engine.record (.failureGrouped "created")
      return some ⟨group, true⟩

end CulpritFinding
