import CulpritFinding.Scoring
import Mathlib.Data.List.Basic

namespace CulpritFinding

namespace ScoringInput

variable (input input' : ScoringInput)

structure AgreeOn (revision : String) : Prop where
  commit : input'.changeLogs.get? revision = input.changeLogs.get? revision
  rolls : (input.changeLogs.get? revision).isSome = true →
    (input'.dependencies.get? revision).getD [] = (input.dependencies.get? revision).getD []

/-- A commit is new in a build that may have broken a supported step. -/
def Considers (revision : String) : Prop :=
  ∃ step ∈ input.failedSteps, step.supported = true ∧
    ∃ e ∈ input.builds.toList, step.suspectRange.contains e.1 = true ∧ revision ∈ e.2.blameList

structure SameCommits : Prop where
  failedSteps : input'.failedSteps = input.failedSteps
  builds : input'.builds = input.builds
  signals : input'.signals = input.signals
  agree : ∀ revision, input.Considers revision → input.AgreeOn input' revision

end ScoringInput

section

variable {input input' : ScoringInput} (scorer : ChangeScorer)

theorem scoreBuild_agree {build : Build}
    (agree : ∀ revision ∈ build.blameList, input.AgreeOn input' revision)
    (signal : FailureSignal) :
    scoreBuild scorer input' build signal = scoreBuild scorer input build signal := by
  apply List.filterMap_congr
  intro revision blamed
  have same := agree revision blamed
  rw [same.commit]
  cases found : input.changeLogs.get? revision with
  | none => rfl
  | some commit => rw [same.rolls (by rw [found]; rfl)]

theorem StepScores.addBuild_agree {build : Build}
    (agree : ∀ revision ∈ build.blameList, input.AgreeOn input' revision) (step : FailedStep)
    (signal : StepSignal) (s : StepScores) (number : Int) :
    s.addBuild scorer input' step signal number build =
      s.addBuild scorer input step signal number build := by
  unfold addBuild testFindings
  simp only [scoreBuild_agree scorer agree]

theorem StepScores.ofStep_agree (same : input.SameCommits input') {step : FailedStep}
    (member : step ∈ input.failedSteps) (supported : step.supported = true) (signal : StepSignal) :
    ofStep scorer input' step signal = ofStep scorer input step signal := by
  unfold ofStep
  rw [same.builds]
  apply List.foldl_ext
  intro s e suspect
  obtain ⟨known, within⟩ := List.mem_filter.mp suspect
  apply addBuild_agree
  intro revision blamed
  exact same.agree revision ⟨step, member, supported, e, known, within, blamed⟩

/-- Suspects do not depend on other commits than those that are considered. -/
theorem scoreSuspects_agree (same : input.SameCommits input') :
    scoreSuspects scorer input' = scoreSuspects scorer input := by
  have steps : scoreSteps scorer input' = scoreSteps scorer input := by
    unfold scoreSteps
    rw [same.failedSteps, same.signals]
    apply List.filterMap_congr
    intro step listed
    obtain ⟨member, supported⟩ := List.mem_filter.mp listed
    simp only [StepScores.ofStep_agree scorer same member supported]
  unfold scoreSuspects
  rw [steps]

end

end CulpritFinding
