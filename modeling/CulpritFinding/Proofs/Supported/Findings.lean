import CulpritFinding.Analyzer
import CulpritFinding.Proofs.Supported.Walk
import Mathlib.Data.List.Basic

namespace CulpritFinding

namespace RegressionRange.SameSupported

variable {config : Config} {r r' : RegressionRange} (alike : SameSupported config r r')

include alike

theorem filter_supported :
    r'.failedSteps.filter (·.supported) = r.failedSteps.filter (·.supported) := by
  rw [alike.steps, List.filter_filter]
  simp only [Bool.and_self]

theorem map_get? {α : Type} {f : Build → α} (blind : ∀ b, f (b.supportedOnly config) = f b)
    {n : Int} (near : ∃ step ∈ r'.failedSteps, ∀ pass ∈ step.lastPass, pass ≤ n) :
    (r'.builds.get? n).map f = (r.builds.get? n).map f := by
  have through : f = f ∘ (·.supportedOnly config) := funext fun b => (blind b).symm
  rw [through, ← Option.map_map, ← Option.map_map, alike.builds n near]

theorem commitAt? {n : Int} (near : ∃ step ∈ r'.failedSteps, ∀ pass ∈ step.lastPass, pass ≤ n) :
    r'.commitAt? n = r.commitAt? n :=
  alike.map_get? (fun _ => rfl) near

theorem commitAt?_lastPass {step : FailedStep} (member : step ∈ r'.failedSteps) :
    step.lastPass.bind r'.commitAt? = step.lastPass.bind r.commitAt? := by
  cases known : step.lastPass with
  | none => rfl
  | some pass =>
    refine alike.commitAt? ⟨step, member, fun other same => ?_⟩
    cases known.symm.trans same
    exact Int.le_refl _

theorem find?_supported :
    r'.failedSteps.find? (·.supported) = r.failedSteps.find? (·.supported) := by
  rw [alike.steps, List.find?_filter]
  congr 1
  funext step
  simp

theorem window? : r'.window? = r.window? := by
  unfold RegressionRange.window?
  rw [← alike.find?_supported]
  cases first : r'.failedSteps.find? (·.supported) with
  | none => rfl
  | some step =>
    have member := List.mem_of_find?_eq_some first
    have near : ∃ step' ∈ r'.failedSteps, ∀ pass ∈ step'.lastPass, pass ≤ step.firstFailure :=
      ⟨step, member, fun pass known => Int.le_of_lt (alike.ordered step member pass known)⟩
    show (do let firstFailed ← r'.commitAt? step.firstFailure
             return (⟨step.lastPass.bind r'.commitAt?, firstFailed⟩ : RegressionWindow)) = _
    rw [alike.commitAt? near, alike.commitAt?_lastPass member]
    rfl

theorem baseRevision? : r'.baseRevision? = r.baseRevision? := by
  unfold RegressionRange.baseRevision?
  rw [← alike.filter_supported]
  dsimp only
  cases oldest : ((r'.failedSteps.filter (·.supported)).map fun step =>
      step.lastPass.getD (step.firstFailure - 1)).min? with
  | none => rfl
  | some n =>
    obtain ⟨step, member, rfl⟩ := List.mem_map.mp (List.min?_mem oldest)
    have near : ∃ step' ∈ r'.failedSteps, ∀ pass ∈ step'.lastPass,
        pass ≤ step.lastPass.getD (step.firstFailure - 1) := by
      refine ⟨step, (List.mem_filter.mp member).1, fun pass known => ?_⟩
      rw [Option.mem_def.mp known]
      exact Int.le_refl _
    have same := alike.map_get? (f := (·.revision)) (fun _ => rfl) near
    rw [Option.map_eq_bind, Option.map_eq_bind] at same
    exact same

theorem suspectBuilds {step : FailedStep} (member : step ∈ r'.failedSteps) :
    (r'.builds.toList.filter fun e => step.suspectRange.contains e.1).map
        (fun e => (e.1, e.2.supportedOnly config)) =
      (r.builds.toList.filter fun e => step.suspectRange.contains e.1).map
        (fun e => (e.1, e.2.supportedOnly config)) := by
  let suspects (builds : SortedMap Int Build) : SortedMap Int Build :=
    (builds.filter fun n _ => step.suspectRange.contains n).map fun _ b => b.supportedOnly config
  have same : suspects r'.builds = suspects r.builds := by
    refine SortedMap.ext_get? fun n => ?_
    simp only [suspects, SortedMap.get?_map, SortedMap.get?_filter]
    cases within : step.suspectRange.contains n with
    | false => cases r'.builds.get? n <;> cases r.builds.get? n <;> rfl
    | true =>
      have near : ∀ pass ∈ step.lastPass, pass ≤ n := by
        intro pass known
        unfold FailedStep.suspectRange BuildRange.ofSuspects BuildRange.contains at within
        rw [Option.mem_def.mp known] at within
        simp only [Bool.and_eq_true, decide_eq_true_eq] at within
        omega
      have all : ∀ known : Option Build, (known.filter fun _ => true) = known := by
        intro known
        cases known <;> rfl
      rw [all, all]
      exact alike.builds n ⟨step, member, near⟩
  exact congrArg SortedMap.toList same

end RegressionRange.SameSupported

section Scoring

variable {config : Config} {input input' : ScoringInput}
  (commits : input'.changeLogs = input.changeLogs)
  (rolls : input'.dependencies = input.dependencies)

include commits rolls

theorem StepScores.addBuild_congr (config : Config) (scorer : ChangeScorer) (step : FailedStep)
    (signal : StepSignal) (s : StepScores) (number : Int) (build : Build) :
    s.addBuild scorer input' step signal number build =
      s.addBuild scorer input step signal number (build.supportedOnly config) := by
  have score : ∀ signal, scoreBuild scorer input' build signal =
      scoreBuild scorer input (build.supportedOnly config) signal := by
    intro signal
    unfold scoreBuild
    rw [commits, rolls]
    rfl
  unfold addBuild testFindings
  simp only [score]

theorem StepScores.ofStep_congr (scorer : ChangeScorer) {step : FailedStep} (signal : StepSignal)
    (builds : (input'.builds.toList.filter fun e => step.suspectRange.contains e.1).map
        (fun e => (e.1, e.2.supportedOnly config)) =
      (input.builds.toList.filter fun e => step.suspectRange.contains e.1).map
        (fun e => (e.1, e.2.supportedOnly config))) :
    ofStep scorer input' step signal = ofStep scorer input step signal := by
  have trimmed (given : ScoringInput) (commits : given.changeLogs = input.changeLogs)
      (rolls : given.dependencies = input.dependencies) :
      ofStep scorer given step signal =
        ((given.builds.toList.filter fun e => step.suspectRange.contains e.1).map
          fun e => (e.1, e.2.supportedOnly config)).foldl
            (fun s e => s.addBuild scorer input step signal e.1 e.2) empty := by
    unfold ofStep
    rw [List.foldl_map]
    simp only [addBuild_congr commits rolls config]
  rw [trimmed input' commits rolls, trimmed input rfl rfl, builds]

end Scoring

theorem RegressionRange.SameSupported.scoreSuspects {config : Config} {r r' : RegressionRange}
    (alike : SameSupported config r r') (scorer : ChangeScorer) (commits : ChangeLogs)
    (rolls : DependencyRolls) (signals : FailureSignals) :
    CulpritFinding.scoreSuspects scorer ⟨r'.failedSteps, r'.builds, commits, rolls, signals⟩ =
      CulpritFinding.scoreSuspects scorer ⟨r.failedSteps, r.builds, commits, rolls, signals⟩ := by
  have steps : scoreSteps scorer ⟨r'.failedSteps, r'.builds, commits, rolls, signals⟩ =
      scoreSteps scorer ⟨r.failedSteps, r.builds, commits, rolls, signals⟩ := by
    unfold scoreSteps
    dsimp only
    rw [← alike.filter_supported]
    refine List.filterMap_congr fun step member => ?_
    have known : step ∈ r'.failedSteps := (List.mem_filter.mp member).1
    have same (signal : StepSignal) :
        StepScores.ofStep scorer ⟨r'.failedSteps, r'.builds, commits, rolls, signals⟩ step signal =
          StepScores.ofStep scorer ⟨r.failedSteps, r.builds, commits, rolls, signals⟩ step signal :=
      StepScores.ofStep_congr (by rfl) (by rfl) scorer signal (alike.suspectBuilds known)
    simp only [same]
  unfold CulpritFinding.scoreSuspects
  dsimp only
  rw [steps]

theorem RegressionRange.SameSupported.baseInRange {config : Config} {r r' : RegressionRange}
    (alike : SameSupported config r r') : r'.baseInRange = r.baseInRange := by
  unfold RegressionRange.baseInRange
  rw [alike.filter_supported]

theorem RegressionRange.SameSupported.inRange {config : Config} {r r' : RegressionRange}
    (alike : SameSupported config r r') (commits : ChangeLogs) (rolls : DependencyRolls)
    (signals : FailureSignals) :
    ScoringInput.inRange ⟨r'.failedSteps, r'.builds, commits, rolls, signals⟩ =
      ScoringInput.inRange ⟨r.failedSteps, r.builds, commits, rolls, signals⟩ := by
  have reached (r : RegressionRange) (step : FailedStep) :
      (r.builds.toList.any fun e => step.suspectRange.contains e.1) =
        !((r.builds.toList.filter fun e => step.suspectRange.contains e.1).map fun e =>
          (e.1, e.2.supportedOnly config)).isEmpty := by
    rw [Bool.eq_iff_iff]
    simp
  unfold ScoringInput.inRange
  dsimp only
  rw [← alike.filter_supported, Bool.eq_iff_iff, List.all_eq_true, List.all_eq_true]
  refine forall₂_congr fun step member => ?_
  have same : (r'.builds.toList.any fun e => step.suspectRange.contains e.1) =
      r.builds.toList.any fun e => step.suspectRange.contains e.1 := by
    rw [reached, reached, alike.suspectBuilds (List.mem_filter.mp member).1]
  unfold StepScores.inRange
  dsimp only
  rw [same]

theorem RegressionRange.SameSupported.scoreSuspects? {config : Config} {r r' : RegressionRange}
    (alike : SameSupported config r r') (scorer : ChangeScorer) (commits : ChangeLogs)
    (rolls : DependencyRolls) (signals : FailureSignals) :
    CulpritFinding.scoreSuspects? scorer ⟨r'.failedSteps, r'.builds, commits, rolls, signals⟩ =
      CulpritFinding.scoreSuspects? scorer ⟨r.failedSteps, r.builds, commits, rolls, signals⟩ := by
  unfold CulpritFinding.scoreSuspects?
  rw [alike.inRange, alike.scoreSuspects]

/-- A failed step whose log names an output node that did not build. -/
def FailureSignals.Names (signals : FailureSignals) (step : FailedStep) (node : String) : Prop :=
  ∃ s ∈ signals.get? step.stepName, node ∈ s.signal.failedOutputNodes.toList

instance (signals : FailureSignals) (step : FailedStep) (node : String) :
    Decidable (signals.Names step node) :=
  inferInstanceAs (Decidable (∃ s ∈ signals.get? step.stepName, _))

/-- An output node that only steps name which are not supported. -/
structure FailureSignals.Unsupported (signals : FailureSignals) (steps : List FailedStep)
    (node : String) : Prop where
  named : node ≠ ""
  unsupported : ∃ step ∈ steps, step.supported = false ∧ signals.Names step node
  alone : ∀ step ∈ steps, step.supported = true → ¬ signals.Names step node

theorem FailureKind.mem_signature_compile {steps : List FailedStep} {signals : FailureSignals}
    {node : String} :
    node ∈ (FailureKind.compile.signature steps signals).nodes.toList ↔
      node ≠ "" ∧ ∃ step ∈ steps, signals.Names step node := by
  unfold FailureKind.signature FailureSignature.ofNodes FailureSignals.Names
  rw [SortedSet.mem_ofList, List.mem_filter, decide_eq_true_eq, and_comm]
  simp only [List.mem_flatMap, List.mem_filterMap, Option.mem_def]
  constructor
  · rintro ⟨named, s, ⟨step, member, known⟩, node⟩
    exact ⟨named, step, member, s, known, node⟩
  · rintro ⟨named, step, member, s, known, node⟩
    exact ⟨named, s, ⟨step, member, known⟩, node⟩

theorem FailureSignals.Unsupported.signature_isEmpty {signals : FailureSignals}
    {steps : List FailedStep} {node : String} (lone : signals.Unsupported steps node) :
    (FailureKind.compile.signature steps signals).isEmpty = false := by
  obtain ⟨step, member, -, names⟩ := lone.unsupported
  have listed := FailureKind.mem_signature_compile.mpr ⟨lone.named, step, member, names⟩
  exact List.isEmpty_eq_false_iff.mpr (List.ne_nil_of_mem listed)

theorem FailureKind.tryJobSteps_subset (kind : FailureKind) (build : Build)
    (steps : List FailedStep) : ∀ step ∈ kind.tryJobSteps build steps, step ∈ steps := by
  intro step member
  cases kind with
  | compile => exact List.mem_of_find?_eq_some (Option.mem_toList.mp member)
  | test => exact (List.mem_filter.mp member).1

theorem oldestPass_mem {steps : List FailedStep} {n : Int}
    (found : oldestPass steps = .ok (some n)) : ∃ step ∈ steps, step.lastPass = some n := by
  by_cases passed : ∀ step ∈ steps, step.lastPass.isSome
  · rw [oldestPass_of_passed passed] at found
    exact List.mem_filterMap.mp (List.min?_mem (Except.ok.inj found))
  · obtain ⟨e, failed⟩ := oldestPass_of_missing (by simpa using passed)
    cases failed.symm.trans found

namespace RegressionRange.SameSupported

variable {services : Services} {r r' : RegressionRange} {build : Build}
  (alike : SameSupported services.config r r')

include alike

theorem findSuspects (blind : ∀ logs, services.dependencies
      (build.supportedOnly services.config) logs = services.dependencies build logs)
    (history : BuildHistory) (signals : FailureSignals) :
    CulpritFinding.findSuspects { services with history } (build.supportedOnly services.config) r'
      signals = CulpritFinding.findSuspects services build r signals := by
  have revision : (build.supportedOnly services.config).revision = build.revision := rfl
  unfold CulpritFinding.findSuspects
  simp only [revision, alike.baseInRange, alike.baseRevision?, blind, alike.scoreSuspects?]

theorem tryJobSteps (kind : FailureKind) :
    kind.tryJobSteps (build.supportedOnly services.config) r'.failedSteps =
      kind.tryJobSteps build r.failedSteps := by
  have needs : ∀ step, (step.supported && needsTryJob build step) = needsTryJob build step := by
    intro step
    unfold needsTryJob
    cases step.supported <;> simp
  have same : needsTryJob (build.supportedOnly services.config) = needsTryJob build := rfl
  rw [alike.steps]
  cases kind with
  | compile =>
    dsimp only [FailureKind.tryJobSteps]
    rw [List.find?_filter, same]
    congr 2
    funext step
    rw [Bool.decide_and, Bool.decide_eq_true, Bool.decide_eq_true, needs]
  | test =>
    dsimp only [FailureKind.tryJobSteps]
    rw [List.filter_filter, same]
    refine List.filter_congr fun step _ => ?_
    rw [Bool.and_comm, ← Bool.and_assoc, needs]

theorem tryJobRange {steps : List FailedStep} (among : ∀ step ∈ steps, step ∈ r'.failedSteps)
    (kind : FailureKind) (signals : FailureSignals) :
    CulpritFinding.tryJobRange services.config kind (build.supportedOnly services.config) steps
      r'.builds signals =
        CulpritFinding.tryJobRange services.config kind build steps r.builds signals := by
  unfold CulpritFinding.tryJobRange
  cases found : oldestPass steps with
  | error e => rfl
  | ok oldest =>
    have good : (oldest.bind r'.builds.get?).map (·.revision) =
        (oldest.bind r.builds.get?).map (·.revision) := by
      cases oldest with
      | none => rfl
      | some n =>
        obtain ⟨step, member, known⟩ := oldestPass_mem found
        refine alike.map_get? (fun _ => rfl) ⟨step, among step member, fun pass same => ?_⟩
        cases known.symm.trans same
        exact Int.le_refl _
    dsimp only [bind, Except.bind]
    generalize oldest.bind r'.builds.get? = first at good ⊢
    generalize oldest.bind r.builds.get? = second at good ⊢
    cases first <;> cases second
    · rfl
    · cases good
    · cases good
    · rw [Option.map_some, Option.map_some, Option.some.injEq] at good
      simp only [good]
      rfl

/-- The two signatures are the same unless only unsupported steps name some output node. -/
theorem signature_eq_iff (kind : FailureKind) (signals : FailureSignals) :
    kind.signature r'.failedSteps signals = kind.signature r.failedSteps signals ↔
      ¬ (kind = .compile ∧ ∃ node, signals.Unsupported r.failedSteps node) := by
  cases kind with
  | test =>
    unfold FailureKind.signature
    rw [alike.filter_supported]
    simp
  | compile =>
    simp only [true_and]
    constructor
    · rintro same ⟨node, named, ⟨step, member, -, names⟩, alone⟩
      have kept := FailureKind.mem_signature_compile.mpr ⟨named, step, member, names⟩
      rw [← same, FailureKind.mem_signature_compile, alike.steps] at kept
      obtain ⟨-, other, member, names⟩ := kept
      obtain ⟨member, supported⟩ := List.mem_filter.mp member
      exact alone other member supported names
    · intro covered
      refine congrArg FailureSignature.mk (SortedSet.ext_mem fun node => ?_)
      refine FailureKind.mem_signature_compile.trans (Iff.trans ?_
        FailureKind.mem_signature_compile.symm)
      refine and_congr_right fun named => ⟨?_, ?_⟩
      · rintro ⟨step, member, names⟩
        rw [alike.steps] at member
        exact ⟨step, (List.mem_filter.mp member).1, names⟩
      · rintro ⟨step, member, names⟩
        by_contra missing
        have absent : ∀ step ∈ r.failedSteps, step.supported = true →
            ¬ signals.Names step node := by
          intro other known supported names'
          exact missing ⟨other, alike.steps ▸ List.mem_filter.mpr ⟨known, supported⟩, names'⟩
        refine covered ⟨node, named, ⟨step, member, ?_, names⟩, absent⟩
        exact Bool.eq_false_iff.mpr fun supported => absent step member supported names

end RegressionRange.SameSupported

end CulpritFinding
