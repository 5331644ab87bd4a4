import CulpritFinding.Analysis
import CulpritFinding.Config
import CulpritFinding.Group
import CulpritFinding.Proofs.Codec.TryJobs

namespace CulpritFinding

open Format

section Analyses

theorem AnalysisStatus.format_definite : AnalysisStatus.format.Definite fun _ => True :=
  enum_definite fun s => by cases s <;> rfl

theorem AnalysisResult.format_definite : AnalysisResult.format.Definite fun _ => True :=
  enum_definite fun r => by cases r <;> rfl

structure Analysis.Fits (a : Analysis) : Prop where
  key : a.key.Fits
  failedSteps : ∀ step ∈ a.failedSteps, step.Fits
  stepSuspects : ∀ step ∈ a.stepSuspects, step.Fits
  suspects : ∀ suspect ∈ a.suspects, suspect.Fits
  failureGroupBuildId : ∀ n ∈ a.failureGroupBuildId, fitsInt64 n = true
  culprits : ∀ culprit ∈ a.culprits, culprit.Fits
  startTime : a.startTime.Fits
  endTime : ∀ t ∈ a.endTime, t.Fits

theorem Analysis.format_definite : Analysis.format.Definite Fits :=
  record_definite
    (Shape.Reversible.pure (by intros; constructor <;> assumption)
      |>.required FailureKey.format_definite (fun _ fits => fits.key)
      |>.required AnalysisStatus.format_definite
      |>.optional AnalysisResult.format_definite
      |>.withDefault (list_definite FailedStep.format_definite) (fun _ fits => fits.failedSteps)
      |>.withDefault (list_definite StepSuspects.format_definite) (fun _ fits => fits.stepSuspects)
      |>.withDefault (list_definite Suspect.format_definite) (fun _ fits => fits.suspects)
      |>.optional groupId_definite
      |>.optional int64_definite (fun _ fits => fits.failureGroupBuildId)
      |>.withDefault TryJobPhase.format_definite
      |>.withDefault (list_definite Culprit.format_definite) (fun _ fits => fits.culprits)
      |>.withDefault flag_definite
      |>.withDefault flag_definite
      |>.optional text_definite
      |>.required instant_definite (fun _ fits => fits.startTime)
      |>.optional instant_definite fun _ fits => fits.endTime)
    (by decide) fun _ => rfl

end Analyses

section Groups

theorem FailureSignature.format_definite :
    FailureSignature.format.Definite fun s => ∀ _ ∈ s.nodes.toList, True :=
  iso_definite (set_definite text_definite) (fun _ => rfl) fun _ => rfl

structure CommitRef.Fits (c : CommitRef) : Prop where
  commitPosition : ∀ n ∈ c.commitPosition, fitsInt64 n = true

theorem CommitRef.format_definite : CommitRef.format.Definite Fits :=
  record_definite
    (Shape.Reversible.pure (by intros; constructor; assumption)
      |>.required text_definite
      |>.optional int64_definite fun _ fits => fits.commitPosition)
    (by decide) fun _ => rfl

structure FailureGroup.Fits (g : FailureGroup) : Prop where
  representative : g.representative.Fits
  representativeBuildId : ∀ n ∈ g.representativeBuildId, fitsInt64 n = true
  lastPassed : ∀ commit ∈ g.lastPassed, commit.Fits
  firstFailed : g.firstFailed.Fits
  members : ∀ build ∈ g.members, build.Fits
  createdAt : g.createdAt.Fits

theorem FailureGroup.format_definite : FailureGroup.format.Definite Fits :=
  record_definite
    (Shape.Reversible.pure (by intros; constructor <;> assumption)
      |>.required groupId_definite
      |>.required text_definite
      |>.required text_definite
      |>.required FailureKind.format_definite
      |>.required BuildKey.format_definite (fun _ fits => fits.representative)
      |>.optional int64_definite (fun _ fits => fits.representativeBuildId)
      |>.optional CommitRef.format_definite (fun _ fits => fits.lastPassed)
      |>.required CommitRef.format_definite (fun _ fits => fits.firstFailed)
      |>.required FailureSignature.format_definite
      |>.withDefault (list_definite BuildKey.format_definite) (fun _ fits => fits.members)
      |>.required instant_definite fun _ fits => fits.createdAt)
    (by decide) fun _ => rfl

end Groups

section Flakes

theorem FlakeType.named?_name (t : FlakeType) : named? FlakeType.all name t.name = some t := by
  cases t <;> rfl

theorem FlakeType.format_definite : FlakeType.format.Definite fun _ => True :=
  enum_definite FlakeType.named?_name

theorem FlakeType.mapFormat_definite {ν : Type} {f : Format ν} {Fits : ν → Prop}
    (definite : f.Definite Fits) : (mapFormat f).Definite fun m => ∀ e ∈ m.toList, Fits e.2 :=
  mapBy_definite FlakeType.named?_name definite

structure FlakeOccurrence.Fits (o : FlakeOccurrence) : Prop where
  buildId : fitsInt64 o.buildId = true
  timeHappened : o.timeHappened.Fits
  changeId : fitsInt64 o.changeId = true

theorem FlakeOccurrence.format_definite : FlakeOccurrence.format.Definite Fits :=
  record_definite
    (Shape.Reversible.pure (by intros; constructor <;> assumption)
      |>.required FlakeType.format_definite
      |>.required int64_definite (fun _ fits => fits.buildId)
      |>.withDefault text_definite
      |>.withDefault text_definite
      |>.required instant_definite (fun _ fits => fits.timeHappened)
      |>.withDefault int64_definite (fun _ fits => fits.changeId) (by decide))
    (by decide) fun _ => rfl

structure FlakeTypeCount.Fits (c : FlakeTypeCount) : Prop where
  occurrences : fitsInt64 c.occurrences = true
  impactedChanges : fitsInt64 c.impactedChanges = true

theorem FlakeTypeCount.format_definite : FlakeTypeCount.format.Definite Fits :=
  record_definite
    (Shape.Reversible.pure (by intros; constructor <;> assumption)
      |>.required int64_definite (fun _ fits => fits.occurrences)
      |>.required int64_definite fun _ fits => fits.impactedChanges)
    (by decide) fun _ => rfl

structure FlakeAggregate.Fits (a : FlakeAggregate) : Prop where
  counts : ∀ e ∈ a.counts.toList, e.2.Fits
  score : fitsInt64 a.score = true
  windowStart : a.windowStart.Fits
  windowEnd : a.windowEnd.Fits
  lastOccurred : ∀ t ∈ a.lastOccurred, t.Fits

theorem FlakeAggregate.format_definite : FlakeAggregate.format.Definite Fits :=
  record_definite
    (Shape.Reversible.pure (by intros; constructor <;> assumption)
      |>.required (FlakeType.mapFormat_definite FlakeTypeCount.format_definite)
        (fun _ fits => fits.counts)
      |>.required int64_definite (fun _ fits => fits.score)
      |>.required instant_definite (fun _ fits => fits.windowStart)
      |>.required instant_definite (fun _ fits => fits.windowEnd)
      |>.optional instant_definite fun _ fits => fits.lastOccurred)
    (by decide) fun _ => rfl

end Flakes

section Configurations

structure HintWeights.Fits (w : HintWeights) : Prop where
  addedFile : w.addedFile < limit32
  deletedFile : w.deletedFile < limit32
  renamedFile : w.renamedFile < limit32
  modifiedFile : w.modifiedFile < limit32
  modifiedFileWithLines : w.modifiedFileWithLines < limit32
  relatedFile : w.relatedFile < limit32
  dependencyRoll : w.dependencyRoll < limit32

theorem HintWeights.standard_fits : HintWeights.standard.Fits := by constructor <;> decide

theorem HintWeights.format_definite : HintWeights.format.Definite Fits :=
  record_definite
    (Shape.Reversible.pure (by intros; constructor <;> assumption)
      |>.withDefault nat32_definite (fun _ fits => fits.addedFile) standard_fits.addedFile
      |>.withDefault nat32_definite (fun _ fits => fits.deletedFile) standard_fits.deletedFile
      |>.withDefault nat32_definite (fun _ fits => fits.renamedFile) standard_fits.renamedFile
      |>.withDefault nat32_definite (fun _ fits => fits.modifiedFile) standard_fits.modifiedFile
      |>.withDefault nat32_definite (fun _ fits => fits.modifiedFileWithLines)
        standard_fits.modifiedFileWithLines
      |>.withDefault nat32_definite (fun _ fits => fits.relatedFile) standard_fits.relatedFile
      |>.withDefault nat32_definite (fun _ fits => fits.dependencyRoll)
        standard_fits.dependencyRoll)
    (by decide) fun _ => rfl

structure Config.Fits (c : Config) : Prop where
  maxBuildsToCheck : c.maxBuildsToCheck < limit64
  hintWeights : c.hintWeights.Fits
  flakeWeights : ∀ e ∈ c.flakeWeights.toList, fitsInt64 e.2 = true
  flakeWindowDays : fitsInt64 c.flakeWindowDays = true
  maxSuspectsForTryJob : c.maxSuspectsForTryJob < limit64
  claimTimeoutSeconds : fitsInt64 c.claimTimeoutSeconds = true

theorem Config.standard_fits : Config.standard.Fits where
  maxBuildsToCheck := by decide
  hintWeights := HintWeights.standard_fits
  flakeWeights := by decide
  flakeWindowDays := by decide
  maxSuspectsForTryJob := by decide
  claimTimeoutSeconds := by decide

theorem Config.format_definite : Config.format.Definite Fits :=
  record_definite
    (Shape.Reversible.pure (by intros; constructor <;> assumption)
      |>.withDefault nat64_definite (fun _ fits => fits.maxBuildsToCheck)
        standard_fits.maxBuildsToCheck
      |>.withDefault (set_definite text_definite)
      |>.withDefault flag_definite
      |>.withDefault (list_definite text_definite)
      |>.withDefault (set_definite text_definite)
      |>.withDefault HintWeights.format_definite (fun _ fits => fits.hintWeights)
        standard_fits.hintWeights
      |>.withDefault (FlakeType.mapFormat_definite int64_definite) (fun _ fits => fits.flakeWeights)
        standard_fits.flakeWeights
      |>.withDefault int64_definite (fun _ fits => fits.flakeWindowDays)
        standard_fits.flakeWindowDays
      |>.withDefault nat64_definite (fun _ fits => fits.maxSuspectsForTryJob)
        standard_fits.maxSuspectsForTryJob
      |>.withDefault text_definite
      |>.withDefault int64_definite (fun _ fits => fits.claimTimeoutSeconds)
        standard_fits.claimTimeoutSeconds)
    (by decide) fun _ => rfl

end Configurations

/-- Every record that is kept or exchanged is read back from its text. Whatever is read from a text
is a record whose own text gives the same record and the same text again. -/
theorem records_roundTrip :
    Build.format.RoundTrips Build.Fits ∧
      FailedStep.format.RoundTrips FailedStep.Fits ∧
      FailureSignal.format.RoundTrips FailureSignal.Fits ∧
      StepSignal.format.RoundTrips StepSignal.Fits ∧
      ChangeLog.format.RoundTrips ChangeLog.Fits ∧
      DependencyRoll.format.RoundTrips (fun _ => True) ∧
      Suspect.format.RoundTrips Suspect.Fits ∧
      StepSuspects.format.RoundTrips StepSuspects.Fits ∧
      Culprit.format.RoundTrips Culprit.Fits ∧
      Analysis.format.RoundTrips Analysis.Fits ∧
      FailureGroup.format.RoundTrips FailureGroup.Fits ∧
      TryJob.format.RoundTrips TryJob.Fits ∧
      FlakeOccurrence.format.RoundTrips FlakeOccurrence.Fits ∧
      FlakeAggregate.format.RoundTrips FlakeAggregate.Fits ∧
      Config.format.RoundTrips Config.Fits ∧
      TryJobEvent.format.RoundTrips (fun _ => True) ∧
      ExternalStatus.format.RoundTrips ExternalStatus.Fits :=
  ⟨Build.format_definite.roundTrips, FailedStep.format_definite.roundTrips,
    FailureSignal.format_definite.roundTrips, StepSignal.format_definite.roundTrips,
    ChangeLog.format_definite.roundTrips, DependencyRoll.format_definite.roundTrips,
    Suspect.format_definite.roundTrips, StepSuspects.format_definite.roundTrips,
    Culprit.format_definite.roundTrips, Analysis.format_definite.roundTrips,
    FailureGroup.format_definite.roundTrips, TryJob.format_definite.roundTrips,
    FlakeOccurrence.format_definite.roundTrips, FlakeAggregate.format_definite.roundTrips,
    Config.format_definite.roundTrips, TryJobEvent.format_definite.roundTrips,
    ExternalStatus.format_definite.roundTrips⟩

theorem standardConfig_roundTrip :
    Config.format.decode? "\x7b\x7d" = some .standard ∧ Config.standard.Fits ∧
      Config.format.decode? (Config.format.encode .standard) = some .standard := by
  obtain ⟨-, -, -, -, -, -, -, -, -, -, -, -, -, -, config, -, -⟩ := records_roundTrip
  have read : Config.format.decode? "\x7b\x7d" = some .standard := rfl
  obtain ⟨fits, -⟩ := config.decode_again _ _ read
  exact ⟨read, fits, config.decode_encode _ fits⟩

example : ExternalStatus.format.encode (.started (some ⟨86400, 250000000⟩)) =
    "\x7b\"status\":\"STARTED\",\"start_time\":\"1970-01-02T00:00:00.250Z\"\x7d" := by decide

end CulpritFinding
