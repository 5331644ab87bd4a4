import CulpritFinding.Proofs.Codec.Findings
import CulpritFinding.TryJob.Basic
import CulpritFinding.TryJob.Phase

namespace CulpritFinding

open Format

section Keys

theorem FailureKind.format_definite : FailureKind.format.Definite fun _ => True :=
  enum_definite fun k => by cases k <;> rfl

structure FailureKey.Fits (k : FailureKey) : Prop where
  build : k.build.Fits

theorem FailureKey.format_definite : FailureKey.format.Definite Fits :=
  record_definite
    (Shape.Reversible.pure (by intros; constructor; assumption)
      |>.required BuildKey.format_definite (fun _ fits => fits.build)
      |>.required FailureKind.format_definite)
    (by decide) fun _ => rfl

end Keys

section Reports

theorem TryJobRange.format_definite : TryJobRange.format.Definite fun _ => True :=
  record_definite
    (Shape.Reversible.pure (by simp)
      |>.required text_definite
      |>.required text_definite
      |>.withDefault (list_definite text_definite)
      |>.withDefault (map_definite (list_definite text_definite)))
    (by decide) fun _ => rfl

theorem StepOutcome.format_definite : StepOutcome.format.Definite fun _ => True :=
  record_definite
    (Shape.Reversible.pure (by simp)
      |>.required text_definite
      |>.withDefault (list_definite text_definite)
      |>.withDefault flag_definite)
    (by decide) fun _ => rfl

theorem RevisionResult.format_definite : RevisionResult.format.Definite fun _ => True :=
  record_definite
    (Shape.Reversible.pure (by simp)
      |>.required text_definite
      |>.optional text_definite
      |>.withDefault (map_definite StepOutcome.format_definite))
    (by decide) fun _ => rfl

theorem TryJobReport.format_definite : TryJobReport.format.Definite fun _ => True :=
  record_definite
    (Shape.Reversible.pure (by simp)
      |>.withDefault (list_definite RevisionResult.format_definite)
      |>.optional text_definite
      |>.withDefault (map_definite text_definite)
      |>.optional text_definite
      |>.optional text_definite
      |>.withDefault (list_definite (pair_definite text_definite text_definite)))
    (by decide) fun _ => rfl

end Reports

section Jobs

theorem TryJobStatus.format_definite : TryJobStatus.format.Definite fun _ => True :=
  enum_definite fun s => by cases s <;> rfl

structure TryJob.Fits (j : TryJob) : Prop where
  key : j.key.Fits
  attempt : j.attempt < limit32
  createdAt : j.createdAt.Fits
  startedAt : ∀ t ∈ j.startedAt, t.Fits
  completedAt : ∀ t ∈ j.completedAt, t.Fits
  elapsedSeconds : ∀ n ∈ j.elapsedSeconds, fitsInt64 n = true

theorem TryJob.format_definite : TryJob.format.Definite Fits :=
  record_definite
    (Shape.Reversible.pure (by intros; constructor <;> assumption)
      |>.required FailureKey.format_definite (fun _ fits => fits.key)
      |>.required nat32_definite (fun _ fits => fits.attempt)
      |>.required TryJobStatus.format_definite
      |>.withDefault (list_definite text_definite)
      |>.optional TryJobRange.format_definite
      |>.withDefault (list_definite text_definite)
      |>.withDefault (list_definite TryJobReport.format_definite)
      |>.required instant_definite (fun _ fits => fits.createdAt)
      |>.optional instant_definite (fun _ fits => fits.startedAt)
      |>.optional instant_definite (fun _ fits => fits.completedAt)
      |>.optional int64_definite (fun _ fits => fits.elapsedSeconds)
      |>.optional text_definite)
    (by decide) fun _ => rfl

theorem TryJobPhase.format_definite : TryJobPhase.format.Definite fun _ => True :=
  enum_definite fun p => by cases p <;> rfl

theorem TryJobEvent.format_definite : TryJobEvent.format.Definite fun _ => True :=
  tagged_definite
    (fun event _ => by
      cases event with
      | evaluated needed => exact List.forall_mem_singleton.mpr (.bool needed)
      | scheduled id => exact List.forall_mem_singleton.mpr (.text id)
      | failed reason => exact List.forall_mem_singleton.mpr (.text reason)
      | started | completed | flakeDetected => exact fun _ h => absurd h List.not_mem_nil)
    (fun event => by cases event <;> simp [toCase])
    (fun event _ => by cases event <;> rfl)
    (fun _ _ _ _ => trivial)

end Jobs

section ExternalStatuses

theorem ExternalResult.formatInStatus_definite :
    ExternalResult.formatInStatus.Definite fun _ => True :=
  enumWith_definite fun r => by cases r <;> rfl

namespace ExternalStatus

structure Ending.Fits (e : Ending) : Prop where
  endTime : ∀ t ∈ e.endTime, t.Fits

def Fits : ExternalStatus → Prop
  | scheduled => True
  | started startTime => ∀ t ∈ startTime, t.Fits
  | completed result report endTime => Ending.Fits ⟨result, report, endTime⟩

theorem startShape_reversible :
    startShape.Reversible ["start_time"] id (fun o => ∀ t ∈ o, t.Fits) fun o => ∀ t ∈ o, t.Fits :=
  .field (option_reversible instant_definite) (fun _ fits => fits)
    (Absence.standsFor_allows (by rintro _ ⟨⟩))

theorem Ending.shape_reversible :
    Ending.shape.Reversible ["result", "report", "end_time"] id Ending.Fits Ending.Fits :=
  Shape.Reversible.pure (by intros; constructor; assumption)
    |>.required ExternalResult.formatInStatus_definite
    |>.optional TryJobReport.format_definite
    |>.optional instant_definite fun _ fits => fits.endTime

theorem ofCase?_toCase {status : ExternalStatus} (fits : status.Fits) :
    ofCase? status.toCase.1 (.named status.toCase.2) = some status := by
  cases status with
  | scheduled => rfl
  | started startTime =>
    show (startShape.readAll? (.named (startShape.write startTime))).map started = _
    rw [startShape_reversible.readAll?_write (by decide) fits]
    rfl
  | completed result report endTime =>
    show (Ending.shape.readAll? (.named (Ending.shape.write ⟨result, report, endTime⟩))).map _ = _
    rw [Ending.shape_reversible.readAll?_write (by decide) fits]
    rfl

theorem fits_of_ofCase? {name : String} {fields : Fields} {status : ExternalStatus}
    (read : ofCase? name fields = some status) : status.Fits := by
  unfold ofCase? at read
  split at read
  · have same : status = scheduled := by
      unfold Fields.readNothing? at read
      split at read
      · cases read
      · exact (Option.some.inj read).symm
    subst same
    trivial
  · obtain ⟨startTime, part, rfl⟩ := Option.map_eq_some_iff.mp read
    exact startShape_reversible.readAll?_eq_some part
  · obtain ⟨ending, part, rfl⟩ := Option.map_eq_some_iff.mp read
    exact Ending.shape_reversible.readAll?_eq_some part
  · cases read

theorem format_definite : format.Definite Fits :=
  tagged_definite
    (fun status fits => by
      cases status with
      | scheduled => exact fun _ h => absurd h List.not_mem_nil
      | started startTime => exact startShape_reversible.plain startTime fits
      | completed result report endTime => exact Ending.shape_reversible.plain _ fits)
    (fun status => by
      cases status with
      | scheduled => exact List.not_mem_nil
      | started startTime =>
        show _ ∉ (startShape.write startTime).map (·.1)
        rw [startShape_reversible.names_write]
        decide
      | completed result report endTime =>
        show _ ∉ (Ending.shape.write _).map (·.1)
        rw [Ending.shape_reversible.names_write]
        decide)
    (fun _ => ofCase?_toCase)
    (fun _ _ _ => fits_of_ofCase?)

end ExternalStatus

end ExternalStatuses

end CulpritFinding
