import CulpritFinding.Build
import CulpritFinding.ChangeLog
import CulpritFinding.Failure.Signal
import CulpritFinding.Failure.Step
import CulpritFinding.Proofs.Codec.Shapes
import CulpritFinding.Suspect

namespace CulpritFinding

open Format

section Builds

structure BuildKey.Fits (k : BuildKey) : Prop where
  buildNumber : fitsInt64 k.buildNumber = true

theorem BuildKey.format_definite : BuildKey.format.Definite Fits :=
  record_definite
    (Shape.Reversible.pure (by intros; constructor; assumption)
      |>.required text_definite
      |>.required text_definite
      |>.required int64_definite fun _ fits => fits.buildNumber)
    (by decide) fun _ => rfl

theorem BuildResult.format_definite : BuildResult.format.Definite fun _ => True :=
  enum_definite fun r => by cases r <;> rfl

structure Build.Fits (b : Build) : Prop where
  buildNumber : fitsInt64 b.buildNumber = true
  buildId : ∀ n ∈ b.buildId, fitsInt64 n = true
  commitPosition : ∀ n ∈ b.commitPosition, fitsInt64 n = true
  startTime : ∀ t ∈ b.startTime, t.Fits

theorem Build.format_definite : Build.format.Definite Fits :=
  record_definite
    (Shape.Reversible.pure (by intros; constructor <;> assumption)
      |>.required text_definite
      |>.withDefault text_definite
      |>.required text_definite
      |>.required int64_definite (fun _ fits => fits.buildNumber)
      |>.optional int64_definite (fun _ fits => fits.buildId)
      |>.required BuildResult.format_definite
      |>.required text_definite
      |>.optional int64_definite (fun _ fits => fits.commitPosition)
      |>.withDefault (list_definite text_definite)
      |>.withDefault (set_definite text_definite)
      |>.withDefault (set_definite text_definite)
      |>.withDefault (map_definite (set_definite text_definite))
      |>.optional instant_definite fun _ fits => fits.startTime)
    (by decide) fun _ => rfl

end Builds

section Failures

structure TestFailure.Fits (t : TestFailure) : Prop where
  currentFailure : fitsInt64 t.currentFailure = true
  firstFailure : fitsInt64 t.firstFailure = true
  lastPass : ∀ n ∈ t.lastPass, fitsInt64 n = true

theorem TestFailure.format_definite : TestFailure.format.Definite Fits :=
  record_definite
    (Shape.Reversible.pure (by intros; constructor <;> assumption)
      |>.required text_definite
      |>.required int64_definite (fun _ fits => fits.currentFailure)
      |>.required int64_definite (fun _ fits => fits.firstFailure)
      |>.and (.field (option_reversible int64_definite) (fun _ fits => fits.lastPass)
        Absence.nameOnly_allows))
    (by decide) fun _ => rfl

structure FailedStep.Fits (s : FailedStep) : Prop where
  currentFailure : fitsInt64 s.currentFailure = true
  firstFailure : fitsInt64 s.firstFailure = true
  lastPass : ∀ n ∈ s.lastPass, fitsInt64 n = true
  tests : ∀ e ∈ s.tests.toList, e.2.Fits

theorem FailedStep.format_definite : FailedStep.format.Definite Fits :=
  record_definite
    (Shape.Reversible.pure (by intros; constructor <;> assumption)
      |>.required text_definite
      |>.required int64_definite (fun _ fits => fits.currentFailure)
      |>.required int64_definite (fun _ fits => fits.firstFailure)
      |>.and (.field (option_reversible int64_definite) (fun _ fits => fits.lastPass)
        Absence.nameOnly_allows)
      |>.required flag_definite
      |>.withDefault (map_definite TestFailure.format_definite) fun _ fits => fits.tests)
    (by decide) fun _ => rfl

theorem FailedTarget.format_definite : FailedTarget.format.Definite fun _ => True :=
  record_definite
    (Shape.Reversible.pure (by simp)
      |>.optional text_definite
      |>.required text_definite)
    (by decide) fun _ => rfl

structure FailureSignal.Fits (s : FailureSignal) : Prop where
  files : ∀ e ∈ s.files.toList, ∀ line ∈ e.2, line < limit32
  keywords : ∀ e ∈ s.keywords.toList, e.2 < limit32

theorem FailureSignal.format_definite : FailureSignal.format.Definite Fits :=
  record_definite
    (Shape.Reversible.pure (by intros; constructor <;> assumption)
      |>.withDefault (map_definite (list_definite nat32_definite)) (fun _ fits => fits.files)
      |>.withDefault (map_definite nat32_definite) (fun _ fits => fits.keywords)
      |>.withDefault (set_definite text_definite)
      |>.withDefault (list_definite FailedTarget.format_definite))
    (by decide) fun _ => rfl

structure StepSignal.Fits (s : StepSignal) : Prop where
  signal : s.signal.Fits
  tests : ∀ e ∈ s.tests.toList, e.2.Fits

theorem StepSignal.format_definite : StepSignal.format.Definite Fits :=
  record_definite
    (Shape.Reversible.pure (by intros; constructor <;> assumption)
      |>.required FailureSignal.format_definite (fun _ fits => fits.signal)
      |>.withDefault (map_definite FailureSignal.format_definite) fun _ fits => fits.tests)
    (by decide) fun _ => rfl

end Failures

section Commits

theorem ChangeType.format_definite : ChangeType.format.Definite fun _ => True :=
  enum_definite fun t => by cases t <;> rfl

theorem FileChange.format_definite : FileChange.format.Definite fun _ => True :=
  record_definite
    (Shape.Reversible.pure (by simp)
      |>.required ChangeType.format_definite
      |>.optional text_definite
      |>.optional text_definite)
    (by decide) fun _ => rfl

structure ChangeLog.Fits (c : ChangeLog) : Prop where
  commitPosition : ∀ n ∈ c.commitPosition, fitsInt64 n = true

theorem ChangeLog.format_definite : ChangeLog.format.Definite Fits :=
  record_definite
    (Shape.Reversible.pure (by intros; constructor; assumption)
      |>.required text_definite
      |>.optional int64_definite (fun _ fits => fits.commitPosition)
      |>.required text_definite
      |>.withDefault (list_definite FileChange.format_definite)
      |>.required text_definite)
    (by decide) fun _ => rfl

theorem DependencyRoll.format_definite : DependencyRoll.format.Definite fun _ => True :=
  record_definite
    (Shape.Reversible.pure (by simp)
      |>.required text_definite
      |>.required text_definite
      |>.optional text_definite
      |>.required text_definite)
    (by decide) fun _ => rfl

end Commits

section Suspects

theorem FailureRef.format_definite : FailureRef.format.Definite fun _ => True :=
  record_definite
    (Shape.Reversible.pure (by simp)
      |>.required text_definite
      |>.optional text_definite)
    (by decide) fun _ => rfl

structure Suspect.Fits (s : Suspect) : Prop where
  commitPosition : ∀ n ∈ s.commitPosition, fitsInt64 n = true
  buildNumber : fitsInt64 s.buildNumber = true
  score : s.score < limit32
  hints : ∀ e ∈ s.hints.toList, e.2 < limit32

theorem Suspect.format_definite : Suspect.format.Definite Fits :=
  record_definite
    (Shape.Reversible.pure (by intros; constructor <;> assumption)
      |>.required text_definite
      |>.required text_definite
      |>.optional int64_definite (fun _ fits => fits.commitPosition)
      |>.required int64_definite (fun _ fits => fits.buildNumber)
      |>.required nat32_definite (fun _ fits => fits.score)
      |>.withDefault (map_definite nat32_definite) (fun _ fits => fits.hints)
      |>.withDefault (list_definite FailureRef.format_definite))
    (by decide) fun _ => rfl

structure StepSuspects.Fits (s : StepSuspects) : Prop where
  suspects : ∀ suspect ∈ s.suspects, suspect.Fits
  tests : ∀ e ∈ s.tests.toList, ∀ suspect ∈ e.2, suspect.Fits

theorem StepSuspects.format_definite : StepSuspects.format.Definite Fits :=
  record_definite
    (Shape.Reversible.pure (by intros; constructor <;> assumption)
      |>.required text_definite
      |>.required (list_definite Suspect.format_definite) (fun _ fits => fits.suspects)
      |>.withDefault (map_definite (list_definite Suspect.format_definite)) fun _ fits =>
        fits.tests)
    (by decide) fun _ => rfl

theorem CulpritSource.format_definite : CulpritSource.format.Definite fun _ => True :=
  enum_definite fun s => by cases s <;> rfl

structure Culprit.Fits (c : Culprit) : Prop where
  commitPosition : ∀ n ∈ c.commitPosition, fitsInt64 n = true

theorem Culprit.format_definite : Culprit.format.Definite Fits :=
  record_definite
    (Shape.Reversible.pure (by intros; constructor; assumption)
      |>.required text_definite
      |>.required text_definite
      |>.optional int64_definite (fun _ fits => fits.commitPosition)
      |>.required CulpritSource.format_definite
      |>.withDefault (list_definite text_definite))
    (by decide) fun _ => rfl

end Suspects

end CulpritFinding
