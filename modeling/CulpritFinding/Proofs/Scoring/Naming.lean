import CulpritFinding.Proofs.Scoring.Contributions
import Mathlib.Data.List.Forall2

namespace CulpritFinding

def Names (suspects : List Suspect) (revision : String) (failure : FailureRef) : Prop :=
  ∃ s ∈ suspects, s.revision = revision ∧ failure ∈ s.failures

theorem Suspicion.Records.names_ranked {logs : ChangeLogs} {given : List Suspicion}
    {contributes : FailureRef → String → Hints → Prop} (records : Records logs given contributes)
    {revision : String} {failure : FailureRef} :
    Names (SuspectMap.ofSuspicions given).ranked revision failure ↔
      ∃ hints, contributes failure revision hints := by
  unfold Names
  rw [SuspectMap.names_ranked]
  constructor
  · rintro ⟨g, member, rfl, rfl⟩
    exact ⟨_, records.sound g member⟩
  · rintro ⟨hints, found⟩
    obtain ⟨g, member, same, own, -⟩ := records.complete failure revision hints found
    exact ⟨g, member, own, same⟩

section Steps

variable (scorer : ChangeScorer) (input : ScoringInput) (step : FailedStep) (signal : StepSignal)

theorem names_ofStep {revision : String} {failure : FailureRef} :
    Names (StepScores.ofStep scorer input step signal).suspects.ranked revision failure ↔
      ∃ hints, Contributes scorer input step signal failure revision hints := by
  rw [(StepScores.ofStep_holds scorer input step signal).suspects]
  exact stepSuspicions_records.names_ranked

theorem stepSuspicions_recordsTest (test : String) :
    Suspicion.Records input.changeLogs ((stepSuspicions scorer input step signal).filter fun g =>
        g.failure = .ofTest step.stepName test)
      fun failure revision hints => failure = .ofTest step.stepName test ∧
        Contributes scorer input step signal failure revision hints := by
  have records : Suspicion.Records input.changeLogs (stepSuspicions scorer input step signal)
      (Contributes scorer input step signal) := stepSuspicions_records
  constructor
  · intro g member
    obtain ⟨member, own⟩ := List.mem_filter.mp member
    exact ⟨of_decide_eq_true own, records.sound g member⟩
  · rintro failure revision hints ⟨rfl, found⟩
    obtain ⟨g, member, same, named⟩ := records.complete _ _ _ found
    exact ⟨g, List.mem_filter.mpr ⟨member, decide_eq_true same⟩, same, named⟩
  · intro g member
    exact records.scored g (List.mem_filter.mp member).1

theorem get?_ranked_tests {test : String} {suspects : List Suspect} :
    ((StepScores.ofStep scorer input step signal).ranked step.stepName).tests.get? test =
        some suspects ↔
      let own := (stepSuspicions scorer input step signal).filter fun g =>
        g.failure = .ofTest step.stepName test
      own ≠ [] ∧ suspects = (SuspectMap.ofSuspicions own).ranked := by
  unfold StepScores.ranked
  dsimp only
  rw [SortedMap.get?_map, (StepScores.ofStep_holds scorer input step signal).tests]
  unfold SuspectMap.ofSuspicions?
  split
  · rename_i nothing
    simp [List.isEmpty_iff.mp nothing]
  · rename_i something
    rw [List.isEmpty_iff] at something
    simp [something, eq_comm]

end Steps

theorem scoreSuspects_steps (scorer : ChangeScorer) (input : ScoringInput) :
    (scoreSuspects scorer input).steps = input.evidenced.map fun e =>
      (StepScores.ofStep scorer input e.1 e.2).ranked e.1.stepName := by
  unfold scoreSuspects
  dsimp only
  rw [scoreSteps_eq, List.map_map]
  rfl

theorem scoreSuspects_suspects (scorer : ChangeScorer) (input : ScoringInput) :
    (scoreSuspects scorer input).suspects =
      (SuspectMap.ofSuspicions (globalSuspicions scorer input)).ranked := by
  unfold scoreSuspects
  dsimp only
  rw [mergeSteps_eq]

theorem mem_globalSuspicions {scorer : ChangeScorer} {input : ScoringInput} {g : Suspicion} :
    g ∈ globalSuspicions scorer input ↔ ∃ e ∈ input.evidenced,
      g.suspect ∈ (StepScores.ofStep scorer input e.1 e.2).suspects.ranked ∧
        g.failure ∈ g.suspect.failures := by
  unfold globalSuspicions SuspectMap.ranked
  simp only [List.mem_flatMap, List.mem_map, (StepScores.ofStep_holds scorer input _ _).suspects,
    (Suspect.rank_perm _).mem_iff]
  constructor
  · rintro ⟨e, member, s, listed, failure, blamed, rfl⟩
    exact ⟨e, member, listed, blamed⟩
  · rintro ⟨e, member, listed, blamed⟩
    exact ⟨e, member, g.suspect, listed, g.failure, blamed, rfl⟩

end CulpritFinding
