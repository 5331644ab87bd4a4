import CulpritFinding.Proofs.RegressionRange.Boundary
import CulpritFinding.Proofs.Scoring.Contributions

namespace CulpritFinding

def BuildRange.InOrder (lastPass : Option Int) (firstFailure currentFailure : Int) : Prop :=
  (∀ pass ∈ lastPass, pass < firstFailure) ∧ firstFailure ≤ currentFailure

/-- What is known about a test is no less than what is known about its step. As long as the step has
no known pass, a test passed last in a build in which the step failed. -/
structure TestFailure.NestedIn (s : FailedStep) (t : TestFailure) : Prop where
  current : t.currentFailure = s.currentFailure
  inOrder : BuildRange.InOrder t.lastPass t.firstFailure t.currentFailure
  firstFailure : s.firstFailure ≤ t.firstFailure
  ofPass : ∀ pass ∈ s.lastPass, ∃ own ∈ t.lastPass, pass ≤ own
  whileFailing : s.lastPass = none → ∀ own ∈ t.lastPass, s.firstFailure ≤ own

namespace TestFailure

variable {s : FailedStep} {t : TestFailure} {n : Int}

theorem NestedIn.suspectRange (nested : t.NestedIn s) (within : t.suspectRange.contains n = true) :
    s.suspectRange.contains n = true := by
  have current := nested.current
  have failed := nested.firstFailure
  unfold TestFailure.suspectRange BuildRange.ofSuspects BuildRange.contains at within
  unfold FailedStep.suspectRange BuildRange.ofSuspects BuildRange.contains
  simp only [Bool.and_eq_true, decide_eq_true_eq] at within ⊢
  cases stepPass : s.lastPass with
  | some pass =>
    obtain ⟨own, known, later⟩ := nested.ofPass pass stepPass
    rw [Option.mem_def.mp known] at within
    dsimp only at within ⊢
    omega
  | none =>
    cases testPass : t.lastPass with
    | some own =>
      have later := nested.whileFailing stepPass own testPass
      rw [testPass] at within
      dsimp only at within ⊢
      omega
    | none =>
      rw [testPass] at within
      dsimp only at within ⊢
      omega

theorem NestedIn.markPassed (nested : t.NestedIn s) (earlier : n < s.firstFailure)
    (unknown : s.lastPass = none) : (t.markPassed n).NestedIn (s.markPassed n) := by
  have failed := nested.firstFailure
  obtain ⟨begun, upTo⟩ := nested.inOrder
  unfold TestFailure.markPassed FailedStep.markPassed
  cases known : t.lastPass with
  | some own =>
    have later := nested.whileFailing unknown own known
    constructor
    · exact nested.current
    · exact ⟨begun, upTo⟩
    · exact failed
    · rintro pass ⟨⟩
      exact ⟨own, known, by omega⟩
    · intro none
      cases none
  | none =>
    constructor
    · exact nested.current
    · refine ⟨?_, upTo⟩
      rintro pass ⟨⟩
      show n < t.firstFailure
      omega
    · exact failed
    · rintro pass ⟨⟩
      exact ⟨n, rfl, Int.le_refl n⟩
    · intro none
      cases none

theorem NestedIn.markFailed (nested : t.NestedIn s) (earlier : n < s.firstFailure)
    (unknown : s.lastPass = none) (build : Build) : t.NestedIn (s.markFailed build n) := by
  have failed := nested.firstFailure
  constructor
  · exact nested.current
  · exact nested.inOrder
  · show n ≤ t.firstFailure
    omega
  · intro pass known
    cases unknown.symm.trans known
  · intro _ own known
    have later := nested.whileFailing unknown own known
    show n ≤ own
    omega

theorem NestedIn.tighten (nested : t.NestedIn s) (earlier : n < s.firstFailure)
    (unknown : s.lastPass = none) (build : Build) (failed : Bool) :
    (t.tighten failed n).NestedIn (s.markFailed build n) := by
  have before : n < t.firstFailure := by
    have := nested.firstFailure
    omega
  obtain ⟨begun, upTo⟩ := nested.inOrder
  have noPass : ∀ {p : Int → Prop}, ∀ pass ∈ (s.markFailed build n).lastPass, p pass := by
    intro p pass known
    cases unknown.symm.trans known
  unfold TestFailure.tighten
  cases known : t.lastPass with
  | some own => exact nested.markFailed earlier unknown build
  | none =>
    cases failed with
    | true =>
      constructor
      · exact nested.current
      · refine ⟨?_, ?_⟩
        · intro own passed
          cases passed
        · show n ≤ t.currentFailure
          omega
      · exact Int.le_refl n
      · exact noPass
      · intro _ own passed
        cases passed
    | false =>
      constructor
      · exact nested.current
      · refine ⟨?_, upTo⟩
        rintro own ⟨⟩
        exact before
      · exact Int.le_of_lt before
      · exact noPass
      · rintro - own ⟨⟩
        exact Int.le_refl n

end TestFailure

namespace FailedStep

variable {s : FailedStep} {build : Build}

theorem observe_nested (nested : ∀ e ∈ s.tests.toList, e.2.NestedIn s)
    (earlier : build.buildNumber < s.firstFailure) :
    ∀ e ∈ (s.observe build).tests.toList, e.2.NestedIn (s.observe build) := by
  have observed := s.observe_observed build
  generalize s.observe build = after at observed ⊢
  cases observed with
  | settled known => exact nested
  | silent unknown noPass noFailure => exact nested
  | passed unknown shows =>
    intro e member
    obtain ⟨former, known, rfl⟩ := List.mem_map.mp member
    exact (nested former known).markPassed earlier unknown
  | failed unknown shows =>
    intro e member
    unfold FailedStep.markFailed at member
    dsimp only at member
    -- Without a list of failing tests in the build, only the step is known to have failed there.
    cases reported : build.failedTestsOf? s.stepName with
    | none =>
      rw [reported] at member
      exact (nested e member).markFailed earlier unknown build
    | some failing =>
      rw [reported] at member
      obtain ⟨former, known, rfl⟩ := List.mem_map.mp member
      exact (nested former known).tighten earlier unknown build _

theorem withTests_tests {tests : List String} {e : String × TestFailure}
    (fresh : s.tests = .empty) (member : e ∈ (s.withTests tests).tests.toList) :
    e.2 = .new e.1 s.currentFailure := by
  have made : (s.withTests tests).tests =
      .ofList (tests.map fun t => (t, TestFailure.new t s.currentFailure)) := by
    unfold withTests SortedMap.ofList
    rw [fresh, List.foldl_map]
  rw [made] at member
  obtain ⟨test, -, rfl⟩ := List.mem_map.mp (SortedMap.mem_of_mem_ofList member)
  rfl

end FailedStep

theorem initialFailedSteps_nested {config : Config} {build : Build} {isIncluded : String → Bool}
    {step : FailedStep} (member : step ∈ initialFailedSteps config build isIncluded) :
    ∀ e ∈ step.tests.toList, e.2.NestedIn step := by
  obtain ⟨name, -, rfl⟩ := List.mem_map.mp member
  dsimp only
  split
  · intro e listed
    have new := FailedStep.withTests_tests rfl listed
    rw [new]
    constructor
    · rfl
    · refine ⟨?_, Int.le_refl _⟩
      intro pass known
      cases known
    · exact Int.le_refl _
    · intro pass known
      cases known
    · intro _ own known
      cases known
  · intro e listed
    cases listed

def RegressionRange.Encloses (floor : Int) (r : RegressionRange) : Prop :=
  ∀ step ∈ r.failedSteps, floor ≤ step.firstFailure ∧ ∀ e ∈ step.tests.toList, e.2.NestedIn step

def StepScores.GoesThrough (step : FailedStep) (builds : SortedMap Int Build)
    (visited : List (Int × Build)) : Prop :=
  ∀ (scorer : ChangeScorer) (input : ScoringInput) (signal : StepSignal), input.builds = builds →
    ofStep scorer input step signal =
      visited.foldl (fun s e => s.addBuild scorer input step signal e.1 e.2) .empty

theorem StepScores.goesThrough_suspectBuilds (step : FailedStep) (builds : SortedMap Int Build) :
    GoesThrough step builds (step.suspectBuilds builds) := by
  rintro scorer input signal rfl
  exact ofStep_eq scorer input step signal

section Found

variable {history : BuildHistory} (answers : history.AnswersByNumber) (config : Config)
  (current : Build) (isIncluded : String → Bool)

include answers

theorem findRegressionRange_encloses :
    ∃ floor, RegressionRange.Descended (history current.project current.builder)
        current.buildNumber config.maxBuildsToCheck floor ∧
      (findRegressionRange history config current
        (initialFailedSteps config current isIncluded)).Encloses floor ∧
      RegressionRange.Halted (history current.project current.builder) current.buildNumber
        config.maxBuildsToCheck floor (findRegressionRange history config current
          (initialFailedSteps config current isIncluded)) := by
  apply RegressionRange.extend_descends
  · intro n r _ _ _ encloses step member
    obtain ⟨after, tests⟩ := encloses step member
    exact ⟨by omega, tests⟩
  · intro n r build _ _ answer encloses _ observed
    obtain ⟨step, member, rfl⟩ := List.mem_map.mp observed
    obtain ⟨after, tests⟩ := encloses step member
    have number : build.buildNumber = n := answers _ _ n build answer
    refine ⟨?_, FailedStep.observe_nested tests (by omega)⟩
    rcases step.observe_firstFailure build with same | ⟨new, -⟩
    · omega
    · omega
  · intro step member
    rw [initialFailedSteps_firstFailure member]
    exact ⟨Int.le_refl _, initialFailedSteps_nested member⟩

theorem findRegressionRange_descended {step : FailedStep}
    (member : step ∈ (findRegressionRange history config current
      (initialFailedSteps config current isIncluded)).failedSteps) :
    ∃ floor, RegressionRange.Descended (history current.project current.builder)
        current.buildNumber config.maxBuildsToCheck floor ∧
      (findRegressionRange history config current
        (initialFailedSteps config current isIncluded)).Walked
          (history current.project current.builder) current floor ∧
      floor ≤ step.firstFailure ∧ step.firstFailure ≤ current.buildNumber := by
  have nonempty : initialFailedSteps config current isIncluded ≠ [] := by
    intro nothing
    rw [nothing, findRegressionRange_nil] at member
    cases member
  have fresh : ∀ step ∈ initialFailedSteps config current isIncluded,
      step.firstFailure = current.buildNumber ∧ step.lastPass = none := by
    intro step known
    exact ⟨initialFailedSteps_firstFailure known, (initialFailedSteps_fresh known).2⟩
  obtain ⟨floor, descended, walked, -⟩ :=
    findRegressionRange_walked answers config current nonempty fresh
  have bounds := walked.bounds step member
  have upTo : step.firstFailure ≤ current.buildNumber := bounds.failed.2 (.inl rfl)
  refine ⟨floor, descended, walked, ?_, upTo⟩
  rcases bounds.failed.1 with same | ⟨within, -⟩
  · have := descended.floor_le
    rw [Set.mem_singleton_iff] at same
    omega
  · exact within.1

theorem findRegressionRange_complete {step : FailedStep}
    (member : step ∈ (findRegressionRange history config current
      (initialFailedSteps config current isIncluded)).failedSteps) :
    BuildRange.InOrder step.lastPass step.firstFailure step.currentFailure ∧
      ∀ n, step.suspectRange.contains n = true →
        let builds := (findRegressionRange history config current
          (initialFailedSteps config current isIncluded)).builds
        n = current.buildNumber ∧ builds.get? n = some current ∨
          n < current.buildNumber ∧
            history current.project current.builder n = .ok (builds.get? n) := by
  obtain ⟨floor, descended, walked, least⟩ :=
    findRegressionRange_descended answers config current isIncluded member
  have failed : step.currentFailure = current.buildNumber :=
    (findRegressionRange_traced answers config current isIncluded).failed step member
  have bounds := walked.bounds step member
  constructor
  · refine ⟨?_, by omega⟩
    intro pass known
    rcases bounds.failed.1 with same | ⟨-, after, -⟩
    · have before := (bounds.passed pass known).1.1.2
      rw [Set.mem_singleton_iff] at same
      omega
    · exact after pass known
  · intro n within builds
    unfold FailedStep.suspectRange BuildRange.ofSuspects BuildRange.contains at within
    simp only [Bool.and_eq_true, decide_eq_true_eq] at within
    have above : floor ≤ n := by
      cases known : step.lastPass with
      | some pass =>
        have := (bounds.passed pass known).1.1.1
        rw [known] at within
        dsimp only at within
        omega
      | none =>
        rw [known] at within
        dsimp only at within
        omega
    by_cases top : n = current.buildNumber
    · exact .inl ⟨top, (walked.keeps n current).mpr (.inl ⟨top, rfl⟩)⟩
    · have before : n < current.buildNumber := by omega
      obtain ⟨found, answer⟩ := descended.answered n above before
      refine .inr ⟨before, answer.trans (congrArg _ (Option.ext fun build => ?_))⟩
      rw [walked.keeps n build]
      constructor
      · rintro rfl
        exact .inr ⟨⟨above, before⟩, answer⟩
      · rintro (⟨same, -⟩ | ⟨-, found'⟩)
        · exact absurd same top
        · cases answer.symm.trans found'
          rfl

theorem findRegressionRange_inRange (fits : fitsInt64 current.buildNumber = true)
    (walks : fitsInt64 (current.buildNumber - 1) = true) {step : FailedStep}
    (member : step ∈ (findRegressionRange history config current
      (initialFailedSteps config current isIncluded)).failedSteps) :
    fitsInt64 (step.firstFailure - 1) = true ∧ BuildRange.startsInRange step.lastPass = true ∧
      ∀ e ∈ step.tests.toList, BuildRange.startsInRange e.2.lastPass = true := by
  obtain ⟨floor, descended, walked, least⟩ :=
    findRegressionRange_descended answers config current isIncluded member
  obtain ⟨inOrder, -⟩ := findRegressionRange_complete answers config current isIncluded member
  have failed : step.currentFailure = current.buildNumber :=
    (findRegressionRange_traced answers config current isIncluded).failed step member
  have valid : floor < current.buildNumber → 0 ≤ floor := fun below =>
    (descended.scope floor (Int.le_refl floor) below).1
  have starts : ∀ lastPass : Option Int,
      (∀ pass ∈ lastPass, floor ≤ pass ∧ pass < current.buildNumber) →
        BuildRange.startsInRange lastPass = true := by
    intro lastPass within
    rw [BuildRange.startsInRange, Option.all_eq_true]
    intro pass known
    obtain ⟨from_floor, before⟩ := within pass known
    have := valid (by omega)
    simp only [fitsInt64, Bool.and_eq_true, decide_eq_true_eq] at fits ⊢
    omega
  refine ⟨?_, starts _ ?_, fun e listed => starts _ ?_⟩
  · have first : step.firstFailure = current.buildNumber ∨ floor < current.buildNumber := by omega
    simp only [fitsInt64, Bool.and_eq_true, decide_eq_true_eq] at fits walks ⊢
    rcases first with same | below
    · omega
    · have := valid below
      omega
  · intro pass known
    exact ((walked.bounds step member).passed pass known).1.1
  · obtain ⟨_, -, encloses, -⟩ :=
      findRegressionRange_encloses answers config current isIncluded
    have nested := (encloses step member).2 e listed
    have current := nested.current
    intro own known
    have upTo := nested.inOrder.1 own known
    have last := nested.inOrder.2
    refine ⟨?_, by omega⟩
    cases stepPass : step.lastPass with
    | none =>
      have := nested.whileFailing stepPass own known
      omega
    | some pass =>
      obtain ⟨own', known', later⟩ := nested.ofPass pass stepPass
      cases (Option.mem_def.mp known).symm.trans known'
      have := ((walked.bounds step member).passed pass stepPass).1.1.1
      omega

end Found

/-- The range of a test lies in that of its step, of which every build on record is kept. So scoring
the step goes through all builds that may have broken the test. -/
theorem findRegressionRange_nested {history : BuildHistory} (answers : history.AnswersByNumber)
    (config : Config) (current : Build) (fits : fitsInt64 current.buildNumber = true)
    (isIncluded : String → Bool) :
    let lookUp := history current.project current.builder
    let found := findRegressionRange? history config current
      (initialFailedSteps config current isIncluded)
    found.isSome = fitsInt64 (current.buildNumber - 1) ∧
      ∀ range ∈ found, ∀ step ∈ range.failedSteps,
        BuildRange.InOrder step.lastPass step.firstFailure step.currentFailure ∧
        BuildRange.startsInRange step.lastPass = true ∧
        (∀ e ∈ step.tests.toList,
          e.2.NestedIn step ∧ BuildRange.startsInRange e.2.lastPass = true) ∧
        (∀ n, step.suspectRange.contains n = true →
          n = current.buildNumber ∧ range.builds.get? n = some current ∨
            n < current.buildNumber ∧ lookUp n = .ok (range.builds.get? n)) ∧
        StepScores.GoesThrough step range.builds (step.suspectBuilds range.builds) ∧
        ∀ e ∈ step.tests.toList, ∀ n, e.2.suspectRange.contains n = true →
          step.suspectRange.contains n = true ∧
            ∀ build, range.builds.get? n = some build →
              (n, build) ∈ step.suspectBuilds range.builds := by
  intro lookUp found
  refine ⟨isSome_findRegressionRange? .., ?_⟩
  intro range found step member
  obtain ⟨walks, rfl⟩ := findRegressionRange?_eq_some.mp found
  obtain ⟨floor, -, encloses, -⟩ := findRegressionRange_encloses answers config current isIncluded
  have nested := (encloses step member).2
  obtain ⟨inOrder, complete⟩ :=
    findRegressionRange_complete answers config current isIncluded member
  obtain ⟨-, starts, testsStart⟩ :=
    findRegressionRange_inRange answers config current isIncluded fits walks member
  refine ⟨inOrder, starts, ?_, complete, ?_, ?_⟩
  · intro e listed
    exact ⟨nested e listed, testsStart e listed⟩
  · exact StepScores.goesThrough_suspectBuilds step _
  · intro e listed n within
    have within' := (nested e listed).suspectRange within
    refine ⟨within', ?_⟩
    intro build known
    exact FailedStep.mem_suspectBuilds.mpr ⟨known, within'⟩

namespace Tested

def build (number : Int) (failing : List String) : Build :=
  ⟨"chromium", "ci", "linux", number, none, .failure, "r", none, [], .ofList ["tests"], .empty,
    .ofList [("tests", .ofList failing)], none⟩

/-- Build 7 is the last one in which all tests passed; one of them passed up to build 9. -/
def builds : List Build :=
  [{ build 7 [] with result := .success }, build 8 ["Old"], build 9 ["Old"]]

def least : Build := build (-9223372036854775808) ["New"]

theorem nested_tests :
    (∃ range ∈ findRegressionRange? (recordedHistory builds) .standard (build 10 ["New", "Old"])
        (initialFailedSteps .standard (build 10 ["New", "Old"]) fun _ => true),
      range.failedSteps.map (fun step => (step.lastPass, step.firstFailure)) = [(some 7, 8)] ∧
        range.failedSteps.flatMap (fun step => step.tests.values.map fun t =>
          (t.testName, t.lastPass, t.firstFailure)) = [("New", some 9, 10), ("Old", some 7, 8)] ∧
        ∀ step ∈ range.failedSteps, ∀ e ∈ step.tests.toList, e.2.NestedIn step) ∧
      findRegressionRange? (recordedHistory builds) .standard least
        (initialFailedSteps .standard least fun _ => true) = none := by
  have answers := recordedHistory_answersByNumber builds
  obtain ⟨-, nested⟩ := findRegressionRange_nested answers .standard (build 10 ["New", "Old"])
    (by decide) fun _ => true
  obtain ⟨unseen, -⟩ := findRegressionRange_nested answers .standard least (by decide) fun _ => true
  have walked : findRegressionRange? (recordedHistory builds) .standard (build 10 ["New", "Old"])
      (initialFailedSteps .standard (build 10 ["New", "Old"]) fun _ => true) = some _ :=
    findRegressionRange?_eq ..
  refine ⟨⟨_, walked, by decide +kernel, by decide +kernel, ?_⟩, ?_⟩
  · intro step member e listed
    exact ((nested _ walked step member).2.2.1 e listed).1
  · exact Option.isNone_iff_eq_none.mp (Option.isSome_eq_false_iff.mp unseen)

end Tested

end CulpritFinding
