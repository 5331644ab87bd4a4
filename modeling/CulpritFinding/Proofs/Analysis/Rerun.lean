import CulpritFinding.Proofs.Run

namespace CulpritFinding

variable {services : Services} {request : AnalysisRequest} {s : EngineState} {previous : Analysis}

theorem begun_of_hasVerdict (stored : s.store.analysis? request.key = some previous)
    (known : previous.hasVerdict = true) :
    (request.begun s).verdictRecord = previous.verdictRecord := by
  unfold AnalysisRequest.begun
  rw [stored]
  exact Analysis.begun_of_hasVerdict known ..

theorem AnalysisEnding.verdictRecord {r : Except AnalysisError AnalysisOutcome}
    {after : EngineState} (ending : AnalysisEnding services request s r after)
    (decided : (request.begun s).hasVerdict = true) :
    ∃ a : Analysis, a.key = request.key ∧ s.Saves a after ∧
      a.verdictRecord = { (request.begun s).verdictRecord with
        result := if request.findsNothing services then some .notFound
          else (request.begun s).verdictRecord.result } := by
  cases ending with
  | nothingFailed nothing key saved record =>
    refine ⟨_, key, saved, ?_⟩
    rw [record, nothing]
    rfl
  | aborted something key saved record =>
    refine ⟨_, key, saved, ?_⟩
    rw [record, something]
    rfl
  | verdictKnown something key known saved record =>
    refine ⟨_, key, saved, ?_⟩
    rw [record, something]
    rfl
  | notBisected something key undecided => cases undecided.symm.trans decided
  | outOfRange something key undecided => cases undecided.symm.trans decided
  | scheduled something key undecided => cases undecided.symm.trans decided
  | refused something key undecided => cases undecided.symm.trans decided

/-- Analyzing a failure again keeps its verdict, and asks for no try job. Only the result is lost,
where the build has no failed step left that the analysis is about. -/
theorem analyzeFailure_verdictRecord (works : services.StoreWorks)
    (stored : s.store.analysis? request.key = some previous) (known : previous.hasVerdict = true) :
    let after := ((analyzeFailure services request).runOn s).2
    s.SameTryJobs after ∧
      ∃ a, after.store.analysis? request.key = some a ∧
        a.verdictRecord = { previous.verdictRecord with
          result := if request.findsNothing services then some .notFound else previous.result } ∧
        (a.verdictRecord = previous.verdictRecord ↔
          request.findsNothing services = false ∨ previous.result = some .notFound) := by
  have begun := begun_of_hasVerdict stored known
  have decided : (request.begun s).hasVerdict = true :=
    (Analysis.hasVerdict_congr (congrArg VerdictRecord.tryJobPhase begun)).trans known
  have ending := analyzeFailure_runOn request works fun undecided =>
    nomatch undecided.symm.trans decided
  dsimp only at ending ⊢
  generalize (analyzeFailure services request).runOn s = run at ending ⊢
  obtain ⟨r, after⟩ := run
  obtain ⟨a, key, saved, record⟩ := ending.verdictRecord decided
  rw [begun] at record
  refine ⟨saved.toSameTryJobs, a, key ▸ saved.stored, record, ?_⟩
  rw [record]
  cases request.findsNothing services with
  | false => exact ⟨fun _ => .inl rfl, fun _ => rfl⟩
  | true =>
    constructor
    · intro same
      exact .inr (congrArg VerdictRecord.result same).symm
    · rintro (something | same)
      · cases something
      · rw [if_pos rfl, ← same]
        rfl

namespace Repaired

def flaky : Analysis :=
  { Analysis.new brokenCompile ⟨0, 0⟩ with
    status := .completed, result := some .flaky, tryJobPhase := .flaky, flaky := true,
    autoActionAllowed := false }

def repaired : Services :=
  { Services.giving "8000001" with
    history := recordedHistory (brokenBuilds ++ [⟨"chromium", "ci", "linux", 1, none, .success,
      "bad", none, ["bad"], .empty, .empty, .empty, none⟩]) }

def again : AnalysisRequest := ⟨brokenCompile, .empty, ⟨60, 0⟩, ⟨60, 0⟩, ⟨0⟩⟩

theorem notFound_after_repair :
    let s := EngineState.initial.withAnalysis flaky
    ∃ a, ((analyzeFailure repaired again).runOn s).2.store.analysis? brokenCompile = some a ∧
      a.verdictRecord = { flaky.verdictRecord with result := some .notFound } := by
  have stored : (EngineState.initial.withAnalysis flaky).store.analysis? again.key =
      some flaky := by
    decide +kernel
  have works : repaired.StoreWorks := fun _ => rfl
  obtain ⟨-, a, saved, record, -⟩ :=
    analyzeFailure_verdictRecord works stored rfl
  have nothing : again.findsNothing repaired = true := by decide +kernel
  rw [nothing, if_pos rfl] at record
  exact ⟨a, saved, record⟩

end Repaired

end CulpritFinding
