import CulpritFinding.Proofs.RegressionRange

namespace CulpritFinding

def Build.supportedOnly (b : Build) (config : Config) : Build :=
  { b with
    failedSteps := b.failedSteps.filter config.isSupportedStep
    failedTests := b.failedTests.filter fun step _ => config.isSupportedStep step }

theorem Build.supportedOnly_twice (b : Build) (config : Config) :
    (b.supportedOnly config).supportedOnly config = b.supportedOnly config := by
  have steps : (b.failedSteps.filter config.isSupportedStep).filter config.isSupportedStep =
      b.failedSteps.filter config.isSupportedStep :=
    SortedSet.ext ((List.filter_filter ..).trans (by simp only [Bool.and_self]; rfl))
  have tests : (b.failedTests.filter fun step _ => config.isSupportedStep step).filter
      (fun step _ => config.isSupportedStep step) =
        b.failedTests.filter fun step _ => config.isSupportedStep step :=
    SortedMap.ext ((List.filter_filter ..).trans (by simp only [Bool.and_self]; rfl))
  unfold supportedOnly
  dsimp only
  rw [steps, tests]

theorem Build.failedTestsOf?_supportedOnly {config : Config} {name : String}
    (supported : config.isSupportedStep name = true) (build : Build) :
    (build.supportedOnly config).failedTestsOf? name = build.failedTestsOf? name := by
  have kept : (build.supportedOnly config).failedTestsOf? name =
      (build.failedTestsOf? name).filter fun _ => config.isSupportedStep name :=
    SortedMap.get?_filter ..
  rw [kept, supported]
  cases build.failedTestsOf? name <;> rfl

theorem initialFailedSteps_supportedOnly (config : Config) (build : Build)
    (isIncluded : String → Bool) :
    initialFailedSteps config (build.supportedOnly config) isIncluded =
      (initialFailedSteps config build isIncluded).filter (·.supported) := by
  have names : (build.supportedOnly config).failedSteps.toList.filter isIncluded =
      (build.failedSteps.toList.filter isIncluded).filter config.isSupportedStep := by
    rw [List.filter_filter]
    exact (List.filter_filter ..).trans (List.filter_congr fun _ _ => Bool.and_comm ..)
  unfold initialFailedSteps
  rw [List.filter_map, names]
  refine (List.map_congr_left fun name member => ?_).trans
    (congrArg _ (List.filter_congr fun name _ => ?_))
  · rw [Build.failedTestsOf?_supportedOnly (List.mem_filter.mp member).2]
    rfl
  · dsimp only [Function.comp]
    split <;> rfl

namespace FailedStep

variable (s : FailedStep) (build : Build)

theorem observe_supported : (s.observe build).supported = s.supported := by
  unfold observe markPassed markFailed
  split <;> try rfl
  split <;> try rfl
  split <;> rfl

theorem observe_stepName : (s.observe build).stepName = s.stepName := by
  unfold observe markPassed markFailed
  split <;> try rfl
  split <;> try rfl
  split <;> rfl

theorem observe_of_passed (passed : s.lastPass.isSome) : s.observe build = s := by
  unfold observe
  rw [if_pos passed]

theorem observe_firstFailure :
    (s.observe build).firstFailure = s.firstFailure ∨
      (s.observe build).firstFailure = build.buildNumber ∧ (s.observe build).lastPass = none := by
  unfold observe markPassed markFailed
  split
  · exact .inl rfl
  · rename_i unknown
    split
    · exact .inl rfl
    · split
      · exact .inr ⟨rfl, by simpa using unknown⟩
      · exact .inl rfl

end FailedStep

theorem PreviousBuilds.next_congr {lookUp lookUp' : Int → Id (Except ProviderError (Option Build))}
    {number : Int} (same : ∀ n ≤ number, lookUp' n = lookUp n) (remaining : Nat) :
    next lookUp' number remaining = next lookUp number remaining := by
  induction remaining generalizing number with
  | zero => rfl
  | succ remaining ih =>
    unfold next
    rw [same number (Int.le_refl _), ih fun n below => same n (by omega)]

namespace RegressionRange

/-- Two ranges of which the second one has the supported steps of the first, and the same builds
as far as they may have broken one of these. -/
structure SameSupported (config : Config) (r r' : RegressionRange) : Prop where
  steps : r'.failedSteps = r.failedSteps.filter (·.supported)
  builds : ∀ n, (∃ step ∈ r'.failedSteps, ∀ pass ∈ step.lastPass, pass ≤ n) →
    (r'.builds.get? n).map (·.supportedOnly config) = (r.builds.get? n).map (·.supportedOnly config)
  ordered : ∀ step ∈ r'.failedSteps, ∀ pass ∈ step.lastPass, pass < step.firstFailure

structure WalkedAlike (config : Config) (next : Int) (r r' : RegressionRange) : Prop
    extends SameSupported config r r' where
  failed : ∀ step ∈ r'.failedSteps, next < step.firstFailure
  passed : ∀ step ∈ r'.failedSteps, ∀ pass ∈ step.lastPass, next < pass

variable {config : Config} {next rest : Int} {r r' : RegressionRange} {build : Build}

theorem supported_observe (r : RegressionRange) (build : Build) :
    (r.observe build).failedSteps.filter (·.supported) =
      (r.failedSteps.filter (·.supported)).map (·.observe build) := by
  unfold observe
  rw [List.filter_map]
  congr 1
  refine List.filter_congr fun step _ => step.observe_supported build

theorem WalkedAlike.observe_both (alike : WalkedAlike config next r r')
    (earlier : build.buildNumber ≤ next) (further : rest < build.buildNumber) :
    WalkedAlike config rest (r.observe build) (r'.observe build) := by
  have observed : ∀ step' ∈ (r'.observe build).failedSteps,
      ∃ step ∈ r'.failedSteps, step' = step.observe build := by
    intro step' member
    obtain ⟨step, known, rfl⟩ := List.mem_map.mp member
    exact ⟨step, known, rfl⟩
  have passed : ∀ step ∈ r'.failedSteps, ∀ pass ∈ (step.observe build).lastPass,
      build.buildNumber ≤ pass ∧ pass < step.firstFailure := by
    intro step member pass known
    rw [step.observe_lastPass, Option.mem_def, Option.or_eq_some_iff] at known
    rcases known with known | ⟨-, new⟩
    · have := alike.passed step member pass known
      exact ⟨by omega, alike.ordered step member pass known⟩
    · split at new <;> cases new
      have := alike.failed step member
      exact ⟨by omega, by omega⟩
  constructor
  · refine ⟨?_, ?_, ?_⟩
    · rw [supported_observe, ← alike.steps]
      rfl
    · rintro n ⟨_, later, before⟩
      obtain ⟨step, member, rfl⟩ := observed _ later
      have known := alike.builds n ⟨step, member, fun pass known => before pass ?_⟩
      · unfold RegressionRange.observe
        simp only [SortedMap.get?_insert]
        split
        · rfl
        · exact known
      · rw [step.observe_lastPass, Option.mem_def.mp known]
        rfl
    · intro _ later pass known
      obtain ⟨step, member, rfl⟩ := observed _ later
      rcases step.observe_firstFailure build with same | ⟨-, unknown⟩
      · rw [same]
        exact (passed step member pass known).2
      · cases unknown.symm.trans known
  · intro _ later
    obtain ⟨step, member, rfl⟩ := observed _ later
    have := alike.failed step member
    rcases step.observe_firstFailure build with same | ⟨new, -⟩ <;> omega
  · intro _ later pass known
    obtain ⟨step, member, rfl⟩ := observed _ later
    have := (passed step member pass known).1
    omega

/-- A build that is looked at after all supported steps are known to have passed says nothing about
them, and comes before all of these passes. -/
theorem WalkedAlike.observe_longer (alike : WalkedAlike config next r r')
    (closed : r'.isOpen = false) (earlier : build.buildNumber ≤ next)
    (further : rest < build.buildNumber) :
    WalkedAlike config rest (r.observe build) r' := by
  have passed : ∀ step ∈ r'.failedSteps, step.lastPass.isSome := by
    simpa [isOpen, Option.isSome_iff_ne_none] using closed
  constructor
  · refine ⟨?_, ?_, alike.ordered⟩
    · rw [supported_observe, ← alike.steps]
      refine (List.map_id _).symm.trans (List.map_congr_left fun step member => ?_)
      exact (step.observe_of_passed build (passed step member)).symm
    · rintro n ⟨step, member, before⟩
      obtain ⟨pass, known⟩ := Option.isSome_iff_exists.mp (passed step member)
      have later := alike.passed step member pass known
      have other : build.buildNumber ≠ n := by
        have := before pass known
        omega
      unfold RegressionRange.observe
      rw [SortedMap.get?_insert, if_neg other]
      exact alike.builds n ⟨step, member, before⟩
  · intro step member
    have := alike.failed step member
    omega
  · intro step member pass known
    have := alike.passed step member pass known
    omega

variable {lookUp lookUp' : Int → Id (Except ProviderError (Option Build))}

theorem extend_of_closed (closed : r.isOpen = false) (walk : PreviousBuilds) :
    r.extend lookUp walk = r := by
  unfold extend
  rw [if_neg (by simp [closed])]

theorem extend_of_build {walk rest : PreviousBuilds} (isOpen : r.isOpen = true)
    (step : walk.step lookUp = (.ok (some build), rest)) :
    r.extend lookUp walk = (r.observe build).extend lookUp rest := by
  rw [extend, if_pos isOpen]
  split
  · rename_i found
    cases found.symm.trans step
    rfl
  · rename_i found
    cases found.symm.trans step
  · rename_i found
    cases found.symm.trans step

theorem extend_of_end {walk : PreviousBuilds}
    (ended : ∀ build rest, walk.step lookUp ≠ (.ok (some build), rest)) :
    r.extend lookUp walk = r := by
  unfold extend
  split
  · split
    · rename_i found
      exact absurd found (ended _ _)
    · rfl
    · rfl
  · rfl

theorem WalkedAlike.extend
    (numbered : ∀ number build, lookUp number = .ok (some build) → build.buildNumber = number)
    {walk : PreviousBuilds} (alike : WalkedAlike config walk.nextNumber r r') :
    SameSupported config (r.extend lookUp walk) (r'.extend lookUp walk) := by
  fun_induction RegressionRange.extend lookUp r walk generalizing r' with
  | case1 r walk isOpen build rest step ih =>
    obtain ⟨n, below, asked, goesOn⟩ := PreviousBuilds.next_build step
    have number := numbered n build asked
    subst number
    cases isOpen' : r'.isOpen with
    | true =>
      rw [extend_of_build isOpen' step]
      exact ih (alike.observe_both below goesOn)
    | false =>
      have longer := ih (alike.observe_longer isOpen' below goesOn)
      rw [extend_of_closed isOpen'] at longer ⊢
      exact longer
  | case2 r walk isOpen rest step =>
    rw [extend_of_end fun build rest found => by cases found.symm.trans step]
    exact alike.toSameSupported
  | case3 r walk isOpen e rest step =>
    rw [extend_of_end fun build rest found => by cases found.symm.trans step]
    exact alike.toSameSupported
  | case4 r walk closed =>
    have closed' : r'.isOpen = false := by
      unfold isOpen at closed ⊢
      rw [alike.steps, List.any_filter]
      simp_all
    rw [extend_of_closed closed']
    exact alike.toSameSupported

theorem extend_congr {walk : PreviousBuilds}
    (same : ∀ n ≤ walk.nextNumber, lookUp' n = lookUp n) :
    r.extend lookUp' walk = r.extend lookUp walk := by
  fun_induction RegressionRange.extend lookUp r walk with
  | case1 r walk isOpen build rest step ih =>
    obtain ⟨n, below, -, further⟩ := PreviousBuilds.next_build step
    have step' : walk.step lookUp' = (.ok (some build), rest) :=
      (PreviousBuilds.next_congr same _).trans step
    rw [extend_of_build isOpen step']
    exact ih fun m less => same m (by omega)
  | case2 r walk isOpen rest step =>
    have step' : walk.step lookUp' = (.ok none, rest) :=
      (PreviousBuilds.next_congr same _).trans step
    exact extend_of_end fun build rest found => by cases found.symm.trans step'
  | case3 r walk isOpen e rest step =>
    have step' : walk.step lookUp' = (.error e, rest) :=
      (PreviousBuilds.next_congr same _).trans step
    exact extend_of_end fun build rest found => by cases found.symm.trans step'
  | case4 r walk closed => exact extend_of_closed (by simpa using closed) walk

theorem extend_names (r : RegressionRange) (walk : PreviousBuilds) :
    (r.extend lookUp walk).failedSteps.map (fun step => (step.stepName, step.supported)) =
      r.failedSteps.map fun step => (step.stepName, step.supported) := by
  fun_induction RegressionRange.extend lookUp r walk with
  | case1 r walk isOpen build rest step ih =>
    rw [ih]
    unfold observe
    rw [List.map_map]
    refine List.map_congr_left fun step _ => ?_
    simp only [Function.comp, step.observe_stepName, step.observe_supported]
  | case2 => rfl
  | case3 => rfl
  | case4 => rfl

end RegressionRange

theorem initialFailedSteps_firstFailure {config : Config} {build : Build}
    {isIncluded : String → Bool} {step : FailedStep}
    (member : step ∈ initialFailedSteps config build isIncluded) :
    step.firstFailure = build.buildNumber := by
  obtain ⟨name, -, rfl⟩ := List.mem_map.mp member
  dsimp only
  split <;> rfl

/-- Without the unsupported steps of a build, its range is the same as far as the supported ones go,
whatever is on record about it itself. -/
theorem findRegressionRange_sameSupported {history history' : BuildHistory}
    (answers : history.AnswersByNumber) (config : Config) (build : Build)
    (same : ∀ n < build.buildNumber,
      history' build.project build.builder n = history build.project build.builder n)
    (isIncluded : String → Bool) :
    RegressionRange.SameSupported config
      (findRegressionRange history config build (initialFailedSteps config build isIncluded))
      (findRegressionRange history' config (build.supportedOnly config)
        (initialFailedSteps config (build.supportedOnly config) isIncluded)) := by
  have begun : RegressionRange.WalkedAlike config (build.buildNumber - 1)
      ⟨initialFailedSteps config build isIncluded, .ofList [(build.buildNumber, build)]⟩
      ⟨initialFailedSteps config (build.supportedOnly config) isIncluded,
        .ofList [(build.buildNumber, build.supportedOnly config)]⟩ := by
    have fresh : ∀ step ∈ initialFailedSteps config (build.supportedOnly config) isIncluded,
        step.lastPass = none := fun step member => (initialFailedSteps_fresh member).2
    refine ⟨⟨initialFailedSteps_supportedOnly .., fun n _ => ?_, ?_⟩, ?_, ?_⟩
    · simp only [SortedMap.ofList, List.foldl_cons, List.foldl_nil, SortedMap.get?_insert]
      split
      · exact congrArg some (build.supportedOnly_twice config)
      · rfl
    · intro step member pass known
      cases (fresh step member).symm.trans known
    · intro step member
      rw [initialFailedSteps_firstFailure member]
      show build.buildNumber - 1 < build.buildNumber
      omega
    · intro step member pass known
      cases (fresh step member).symm.trans known
  have lookUps : ∀ n ≤ build.buildNumber - 1,
      history' build.project build.builder n = history build.project build.builder n :=
    fun n below => same n (by omega)
  unfold findRegressionRange
  rw [RegressionRange.extend_congr (r := ⟨initialFailedSteps config (build.supportedOnly config)
    isIncluded, _⟩) lookUps]
  exact begun.extend (answers _ _)

end CulpritFinding
