import CulpritFinding.Analyzer
import CulpritFinding.Proofs.Group.Founding

namespace CulpritFinding

def Store.groupToJoin? (s : Store) (build : Build) (kind : FailureKind)
    (signature : FailureSignature) (window : RegressionWindow) : Option FailureGroup :=
  if signature.isEmpty then none
  else (s.findGroups build.project kind signature).find? fun g => g.window.overlaps window

def RegressionRange.groupToJoin? (r : RegressionRange) (s : Store) (build : Build)
    (kind : FailureKind) (signals : FailureSignals) : Option FailureGroup :=
  r.window?.bind fun window =>
    s.groupToJoin? build kind (kind.signature r.failedSteps signals) window

def joinedOthers (membership : Option GroupMembership) : Bool := membership.any fun m => !m.isNew

variable {services : Services} {request : AnalysisRequest} {s after : EngineState} {build : Build}

/-- A failure joins the group of another build exactly where that build started the first group that
the failure would join. A group that cannot be started leaves the failure on its own. -/
theorem Grouping.joinedOthers_eq {r : GroupingRequest}
    {answer : Except AnalysisError (Option GroupMembership)} (works : services.StoreWorks)
    (grouping : Grouping services r s answer after) (compared : answer ≠ .error .outOfRange) :
    joinedOthers answer.toOption.join =
      (s.store.groupToJoin? r.build r.kind r.signature r.window).any fun g =>
        g.representative ≠ r.build.key := by
  unfold Store.groupToJoin?
  rw [r.find?_findGroups]
  cases grouping with
  | unsigned empty =>
    rw [if_pos empty]
    rfl
  | failed cause =>
    rw [FailureTraits.find?_of_firstFit? (cause works).1]
    split <;> rfl
  | stopped => exact absurd rfl compared
  | own signed found own =>
    simp [signed, FailureTraits.find?_of_firstFit? found, own, joinedOthers, Except.toOption]
  | known signed found others | joined signed found others =>
    simp [signed, FailureTraits.find?_of_firstFit? found, others, joinedOthers, Except.toOption]
  | started signed alone =>
    rw [FailureTraits.find?_of_firstFit? alone]
    split <;> rfl

def groupingAnswer : Except AnalysisError (Option GroupMembership) →
    Except AnalysisError (Option GroupMembership)
  | .error .outOfRange => .error .outOfRange
  | answer => .ok answer.toOption.join

theorem groupingAnswer_eq_ok {answer : Except AnalysisError (Option GroupMembership)}
    {membership : Option GroupMembership} (answered : groupingAnswer answer = .ok membership) :
    answer ≠ .error .outOfRange ∧ answer.toOption.join = membership := by
  unfold groupingAnswer at answered
  split at answered
  · cases answered
  · rename_i compared
    exact ⟨compared, Except.ok.inj answered⟩

theorem groupFailure_grouping {range : RegressionRange} {window : RegressionWindow}
    (located : range.window? = some window) (services : Services) (request : AnalysisRequest)
    (build : Build) (signals : FailureSignals) (s : EngineState) :
    ∃ answer after,
      Grouping services ⟨⟨build, request.key.kind,
        request.key.kind.signature range.failedSteps signals, window⟩, request.freshGroupId,
        request.start⟩ s answer after ∧
      (groupFailure services request build range signals).runOn s =
        (groupingAnswer answer, after) := by
  have grouping := GroupingRequest.run_runOn services ⟨⟨build, request.key.kind,
    request.key.kind.signature range.failedSteps signals, window⟩, request.freshGroupId,
    request.start⟩ s
  refine ⟨_, _, grouping, ?_⟩
  unfold GroupingRequest.run groupFailure
  rw [located]
  dsimp only
  rw [Engine.runOn_tryCatch]
  rcases Engine.runOn _ s with ⟨e | _, _⟩
  · cases e <;> rfl
  · rfl

theorem groupFailure_joinedOthers (works : services.StoreWorks) {range : RegressionRange}
    {signals : FailureSignals} {membership : Option GroupMembership}
    (run : (groupFailure services request build range signals).runOn s =
      (.ok membership, after)) :
    joinedOthers membership = (range.groupToJoin? s.store build request.key.kind signals).any
      fun g => g.representative ≠ build.key := by
  unfold RegressionRange.groupToJoin?
  cases located : range.window? with
  | none =>
    unfold groupFailure at run
    rw [located] at run
    cases run
    rfl
  | some window =>
    obtain ⟨answer, middle, grouping, grouped⟩ :=
      groupFailure_grouping located services request build signals s
    have answered := congrArg Prod.fst (grouped.symm.trans run)
    obtain ⟨compared, rfl⟩ := groupingAnswer_eq_ok answered
    exact grouping.joinedOthers_eq works compared

end CulpritFinding
