import CulpritFinding.Treatment
import CulpritFinding.RegressionRange

namespace CulpritFinding

def BuildHistory.AnswersByNumber (history : BuildHistory) : Prop :=
  ∀ project builder number build,
    history project builder number = .ok (some build) → build.buildNumber = number

theorem recordedHistory_answersByNumber (builds : List Build) :
    (recordedHistory builds).AnswersByNumber := by
  intro project builder number build answered
  unfold recordedHistory at answered
  have key := List.find?_some (Except.ok.inj answered)
  exact congrArg BuildKey.buildNumber (of_decide_eq_true key)

theorem PreviousBuilds.next_build {lookUp : Int → Id (Except ProviderError (Option Build))}
    {number : Int} {remaining : Nat} {build : Build} {rest : PreviousBuilds}
    (answered : next lookUp number remaining = (.ok (some build), rest)) :
    ∃ n ≤ number, lookUp n = .ok (some build) ∧ rest.nextNumber < n := by
  induction remaining generalizing number with
  | zero => cases answered
  | succ remaining ih =>
    unfold next at answered
    split at answered
    · cases answered
    · dsimp only [bind, pure] at answered
      split at answered
      · cases answered
      · rename_i found asked
        cases answered
        exact ⟨number, Int.le_refl _, asked, show number - 1 < number by omega⟩
      · obtain ⟨n, below, asked, rest⟩ := ih answered
        exact ⟨n, by omega, asked, rest⟩

namespace FailedStep

variable (s : FailedStep) (build : Build)

theorem observe_currentFailure : (s.observe build).currentFailure = s.currentFailure := by
  unfold observe markPassed markFailed
  split <;> try rfl
  split <;> try rfl
  split <;> rfl

theorem observe_lastPass :
    (s.observe build).lastPass =
      s.lastPass.or (if build.result = .success || build.stepPassed s.stepName
        then some build.buildNumber else none) := by
  unfold observe markPassed markFailed
  cases known : s.lastPass with
  | some pass => simp [known]
  | none =>
    simp only [Option.isSome_none, Bool.false_eq_true, if_false, Option.none_or]
    split
    · rfl
    · split
      · rfl
      · exact known

end FailedStep

namespace RegressionRange

/-- What a walk knows: the steps failed in the current build, and a pass is that of an earlier build
on record. -/
structure Traced (lookUp : Int → Except ProviderError (Option Build)) (current : Int)
    (r : RegressionRange) : Prop where
  failed : ∀ step ∈ r.failedSteps, step.currentFailure = current
  passed : ∀ step ∈ r.failedSteps, ∀ pass ∈ step.lastPass, pass < current ∧
    ∃ build, lookUp pass = .ok (some build) ∧ r.builds.get? pass = some build

variable {lookUp : Int → Except ProviderError (Option Build)} {current : Int}
  {r : RegressionRange} {build : Build}

theorem Traced.observe (traced : r.Traced lookUp current) (earlier : build.buildNumber < current)
    (answered : lookUp build.buildNumber = .ok (some build)) :
    (r.observe build).Traced lookUp current where
  failed := by
    intro step observed
    obtain ⟨former, member, rfl⟩ := List.mem_map.mp observed
    rw [former.observe_currentFailure, traced.failed former member]
  passed := by
    intro step observed pass known
    obtain ⟨former, member, rfl⟩ := List.mem_map.mp observed
    unfold RegressionRange.observe
    rw [former.observe_lastPass, Option.mem_def, Option.or_eq_some_iff] at known
    simp only [SortedMap.get?_insert]
    rcases known with known | ⟨-, new⟩
    · obtain ⟨before, b, asked, kept⟩ := traced.passed former member pass known
      refine ⟨before, b, asked, ?_⟩
      split
      · rename_i same
        rw [same, asked] at answered
        cases answered
        rfl
      · exact kept
    · split at new <;> cases new
      exact ⟨earlier, build, answered, if_pos rfl⟩

theorem Traced.extend (traced : r.Traced lookUp current)
    (numbered : ∀ number build, lookUp number = .ok (some build) → build.buildNumber = number)
    {walk : PreviousBuilds} (earlier : walk.nextNumber < current) :
    (r.extend lookUp walk).Traced lookUp current := by
  fun_induction RegressionRange.extend lookUp r walk with
  | case1 r walk isOpen build rest step ih =>
    obtain ⟨n, below, asked, goesOn⟩ := PreviousBuilds.next_build step
    have number := numbered n build asked
    subst number
    exact ih (traced.observe (by omega) asked) (by omega)
  | case2 => exact traced
  | case3 => exact traced
  | case4 => exact traced

end RegressionRange

/-- The range that a walk from below a build finds, whatever number that is. -/
def findRegressionRange (history : BuildHistory) (config : Config) (current : Build)
    (steps : List FailedStep) : RegressionRange :=
  RegressionRange.extend (history current.project current.builder)
    ⟨steps, .ofList [(current.buildNumber, current)]⟩
    ⟨current.buildNumber - 1, config.maxBuildsToCheck⟩

theorem findRegressionRange?_eq (history : BuildHistory) (config : Config) (current : Build)
    (steps : List FailedStep) :
    findRegressionRange? history config current steps =
      if fitsInt64 (current.buildNumber - 1) then
        some (findRegressionRange history config current steps)
      else none := by
  unfold findRegressionRange? PreviousBuilds.before? int64?
  by_cases fits : fitsInt64 (current.buildNumber - 1) = true <;> simp [fits, findRegressionRange]

theorem isSome_findRegressionRange? (history : BuildHistory) (config : Config) (current : Build)
    (steps : List FailedStep) :
    (findRegressionRange? history config current steps).isSome =
      fitsInt64 (current.buildNumber - 1) := by
  rw [findRegressionRange?_eq]
  split <;> simp [*]

theorem findRegressionRange?_eq_some {history : BuildHistory} {config : Config} {current : Build}
    {steps : List FailedStep} {range : RegressionRange} :
    findRegressionRange? history config current steps = some range ↔
      fitsInt64 (current.buildNumber - 1) = true ∧
        range = findRegressionRange history config current steps := by
  rw [findRegressionRange?_eq]
  split <;> simp [*, eq_comm]

theorem initialFailedSteps_fresh {config : Config} {build : Build} {isIncluded : String → Bool}
    {step : FailedStep} (member : step ∈ initialFailedSteps config build isIncluded) :
    step.currentFailure = build.buildNumber ∧ step.lastPass = none := by
  obtain ⟨name, -, rfl⟩ := List.mem_map.mp member
  dsimp only
  split <;> exact ⟨rfl, rfl⟩

theorem findRegressionRange_traced {history : BuildHistory} (answers : history.AnswersByNumber)
    (config : Config) (build : Build) (isIncluded : String → Bool) :
    (findRegressionRange history config build
      (initialFailedSteps config build isIncluded)).Traced
        (history build.project build.builder) build.buildNumber := by
  refine RegressionRange.Traced.extend ⟨fun step member => ?_, fun step member pass known => ?_⟩
    (answers _ _) (show build.buildNumber - 1 < build.buildNumber by omega)
  · exact (initialFailedSteps_fresh member).1
  · rw [(initialFailedSteps_fresh member).2] at known
    cases known

theorem findRegressionRange_nil (history : BuildHistory) (config : Config) (build : Build) :
    (findRegressionRange history config build []).failedSteps = [] := by
  unfold findRegressionRange RegressionRange.extend
  rfl

namespace FailureKind

end FailureKind

theorem oldestPass_of_passed {steps : List FailedStep}
    (passed : ∀ step ∈ steps, step.lastPass.isSome) :
    oldestPass steps = .ok (steps.filterMap (·.lastPass)).min? := by
  induction steps with
  | nil => rfl
  | cons step rest ih =>
    obtain ⟨first, later⟩ := List.forall_mem_cons.mp passed
    obtain ⟨pass, known⟩ := Option.isSome_iff_exists.mp first
    unfold oldestPass
    simp only [known, ih later, List.filterMap_cons, List.min?_cons]
    cases (rest.filterMap (·.lastPass)).min? <;> rfl

theorem oldestPass_of_missing {steps : List FailedStep}
    (missing : ∃ step ∈ steps, step.lastPass = none) : ∃ e, oldestPass steps = .error e := by
  induction steps with
  | nil => simp at missing
  | cons step rest ih =>
    unfold oldestPass
    cases known : step.lastPass with
    | none => exact ⟨_, rfl⟩
    | some pass =>
      obtain ⟨e, failed⟩ := ih (by simpa [known] using missing)
      exact ⟨e, by simp only [failed]; rfl⟩

structure TryJobRange.Spans (range : TryJobRange)
    (lookUp : Int → Except ProviderError (Option Build)) (current : Build)
    (steps : List FailedStep) : Prop where
  bad : range.badRevision = current.revision
  good : ∃ oldest build, (steps.filterMap (·.lastPass)).min? = some oldest ∧
    oldest < current.buildNumber ∧ lookUp oldest = .ok (some build) ∧
    range.goodRevision = build.revision

section

variable {lookUp : Int → Except ProviderError (Option Build)} {current : Build}
  {r : RegressionRange} {steps : List FailedStep}

end

end CulpritFinding
