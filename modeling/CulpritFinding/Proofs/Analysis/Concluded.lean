import CulpritFinding.Proofs.Sound

namespace CulpritFinding

namespace TryJobPhase

def followsFindings : TryJobPhase → Bool
  | scheduled | running | completed | flaky => true
  | _ => false

theorem followsFindings_of_apply {phase : TryJobPhase} {event : TryJobEvent}
    (other : ∀ id, event ≠ .scheduled id) (follows : (phase.apply event).followsFindings = true) :
    phase.followsFindings = true := by
  cases event with
  | scheduled id => exact absurd rfl (other id)
  | evaluated needed => cases needed <;> cases phase <;> exact follows
  | _ => cases phase <;> first | rfl | cases follows

end TryJobPhase

def Analysis.Resolved (a : Analysis) : Prop :=
  a.tryJobPhase.followsFindings = true → a.result.isSome

structure Store.Resolved (s : Store) : Prop extends s.Sound where
  resolved : ∀ {key a}, s.analysis? key = some a → a.Resolved

theorem Analysis.Resolved.follow {a : Analysis} (resolved : a.Resolved) (job : TryJob)
    (now : Instant) : (a.follow job now).Resolved := by
  have after {event : TryJobEvent} (other : ∀ id, event ≠ .scheduled id) :
      (a.after event).Resolved :=
    fun follows => resolved (TryJobPhase.followsFindings_of_apply other follows)
  unfold Analysis.follow
  cases job.status with
  | pending => exact resolved
  | running => exact after nofun
  | error => exact after nofun
  | completed =>
    dsimp only
    unfold withVerdict
    cases job.verdict with
    | found => exact fun _ => rfl
    | flaky => exact fun _ => rfl
    | inconclusive => exact after nofun

section

variable {services : Services} {s s' : EngineState}

theorem Store.Resolved.save (resolved : s.store.Resolved) {a : Analysis} (sound : s'.store.Sound)
    (saved : s.Saves a s') (fits : a.Resolved) : s'.store.Resolved where
  toSound := sound
  resolved := by
    intro key b stored
    rw [saved.analysis?] at stored
    split at stored
    · cases stored
      exact fits
    · exact resolved.resolved stored

end

/-- The error that stopped an analysis, if it was stopped: its build is not known, or a source of
the engine has failed. Any other error leaves the findings as they are. -/
def stoppedBy? {α : Type} : Except AnalysisError α → Option AnalysisError
  | .error (.missingBuildData build) => some (.missingBuildData build)
  | .error (.provider e) => some (.provider e)
  | _ => none

namespace Analysis

variable {a : Analysis} {now : Instant}

structure Failed (a : Analysis) (e : AnalysisError) (now : Instant) : Prop where
  status : a.status = .error
  error : a.error = some e.message
  endTime : a.endTime = some now

structure Concluded (a : Analysis) (now : Instant) : Prop where
  status : a.status = .completed
  result : a.result.isSome
  error : a.error = none
  endTime : a.endTime = some now

structure Interrupted (a : Analysis) : Prop where
  status : a.status = .running
  error : a.error = none
  endTime : a.endTime = none

theorem Concluded.after (concluded : a.Concluded now) (event : TryJobEvent) :
    (a.after event).Concluded now :=
  ⟨concluded.status, concluded.result, concluded.error, concluded.endTime⟩

end Analysis

/-- That the analysis under a key is recorded as having ended the way its answer says. Where a
number went out of range it may not have ended. -/
def AnalysisRequest.Recorded (request : AnalysisRequest)
    (r : Except AnalysisError AnalysisOutcome) (s : EngineState) : Prop :=
  ∃ a, s.store.analysis? request.key = some a ∧
    match stoppedBy? r with
    | some e => a.Failed e request.finish
    | none => a.Concluded request.finish ∨ r = .error .outOfRange ∧ a.Interrupted

section

open Engine

variable {services : Services} {request : AnalysisRequest} {a : Analysis} {s s' : EngineState}

theorem Scheduling.goesOn {key : FailureKey} {range : TryJobRange} {suspects : List Suspect}
    {now : Instant} {r : Except AnalysisError TryJob}
    (scheduling : Scheduling services key range suspects now s r s') : stoppedBy? r = none := by
  cases scheduling <;> rfl

theorem Analysis.Failed.recorded {e : AnalysisError} (failed : a.Failed e request.finish)
    (key : a.key = request.key) (saved : s.Saves a s')
    (stopped : stoppedBy? (.error e : Except AnalysisError AnalysisOutcome) = some e) :
    request.Recorded (.error e) s' := by
  refine ⟨a, key ▸ saved.stored, ?_⟩
  rw [stopped]
  exact failed

theorem Analysis.Interrupted.recorded (interrupted : a.Interrupted) (key : a.key = request.key)
    (saved : s.Saves a s') : request.Recorded (.error .outOfRange) s' :=
  ⟨a, key ▸ saved.stored, .inr ⟨rfl, interrupted⟩⟩

end

namespace Unclaimable

def failing (fault : StoreMethod) : Services :=
  { Services.recalling "8000001" with
    storeFault := fun method => if method = fault then some "offline" else none }

def scheduled : Episode := ⟨.recalling "8000001", .analyze (brokenRequest 0), .initial⟩

end Unclaimable

end CulpritFinding
