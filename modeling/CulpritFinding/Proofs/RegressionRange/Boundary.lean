import CulpritFinding.Proofs.RegressionRange.Descent
import Mathlib.Data.Int.ConditionallyCompleteOrder
import Mathlib.Order.Bounds.Basic
import Mathlib.Order.ConditionallyCompleteLattice.Basic
import Mathlib.Order.Interval.Set.Basic

namespace CulpritFinding

namespace Build

def ShowsPass (b : Build) (step : String) : Prop := b.result = .success ∨ b.stepPassed step = true

def ShowsFailure (b : Build) (step : String) : Prop :=
  ¬ b.ShowsPass step ∧ b.stepFailed step = true

end Build

section LookUps

variable (lookUp : Int → Except ProviderError (Option Build)) (step : String) (n : Int)

def PassedAt : Prop := ∃ build, lookUp n = .ok (some build) ∧ build.ShowsPass step

def FailedAt : Prop := ∃ build, lookUp n = .ok (some build) ∧ build.ShowsFailure step

variable {lookUp step n} {build : Build} (answer : lookUp n = .ok (some build))

include answer

theorem answered_iff {shows : Build → Prop} :
    (∃ other, lookUp n = .ok (some other) ∧ shows other) ↔ shows build := by
  constructor
  · rintro ⟨other, found, shown⟩
    cases answer.symm.trans found
    exact shown
  · intro shown
    exact ⟨build, answer, shown⟩

theorem passedAt_iff : PassedAt lookUp step n ↔ build.ShowsPass step :=
  answered_iff answer

theorem failedAt_iff : FailedAt lookUp step n ↔ build.ShowsFailure step :=
  answered_iff answer

end LookUps

theorem ico_cases {n m current : Int} (within : m ∈ Set.Ico n current) :
    m = n ∨ m ∈ Set.Ico (n + 1) current := by
  obtain ⟨from_n, before⟩ := within
  by_cases same : m = n
  · exact .inl same
  · exact .inr ⟨by omega, before⟩

theorem ico_succ_subset {n current : Int} : Set.Ico (n + 1) current ⊆ Set.Ico n current := by
  rintro m ⟨after, before⟩
  exact ⟨by omega, before⟩

namespace FailedStep

inductive Observed (s : FailedStep) (build : Build) : FailedStep → Prop
  | settled (known : s.lastPass.isSome = true) : Observed s build s
  | passed (unknown : s.lastPass = none) (shows : build.ShowsPass s.stepName) :
      Observed s build (s.markPassed build.buildNumber)
  | failed (unknown : s.lastPass = none) (shows : build.ShowsFailure s.stepName) :
      Observed s build (s.markFailed build build.buildNumber)
  | silent (unknown : s.lastPass = none) (noPass : ¬ build.ShowsPass s.stepName)
      (noFailure : ¬ build.ShowsFailure s.stepName) : Observed s build s

theorem observe_observed (s : FailedStep) (build : Build) : s.Observed build (s.observe build) := by
  unfold observe
  split
  · rename_i known
    exact .settled known
  · rename_i known
    have unknown : s.lastPass = none := by simpa using known
    split
    · rename_i shows
      exact .passed unknown (by simpa [Build.ShowsPass] using shows)
    · rename_i clear
      have noPass : ¬ build.ShowsPass s.stepName := by simpa [Build.ShowsPass] using clear
      split
      · rename_i fails
        exact .failed unknown ⟨noPass, fails⟩
      · rename_i fails
        exact .silent unknown noPass fun shows => fails shows.2

/-- The boundary between a pass and the failures after it, as far as some numbers show it. -/
structure Bounds (lookUp : Int → Except ProviderError (Option Build)) (current : Int)
    (seen : Set Int) (s : FailedStep) : Prop where
  passed : ∀ pass ∈ s.lastPass, IsGreatest {n ∈ seen | PassedAt lookUp s.stepName n} pass
  unpassed : s.lastPass = none → ∀ n ∈ seen, ¬ PassedAt lookUp s.stepName n
  failed : IsLeast ({current} ∪
    {n ∈ seen | (∀ pass ∈ s.lastPass, pass < n) ∧ FailedAt lookUp s.stepName n}) s.firstFailure

variable {lookUp : Int → Except ProviderError (Option Build)} {current n : Int}
  {seen seen' : Set Int} {s : FailedStep} {build : Build}

theorem Bounds.widen (bounds : s.Bounds lookUp current seen) (more : seen ⊆ seen')
    (quiet : ∀ n ∈ seen', n ∉ seen → (∃ pass ∈ s.lastPass, n < pass) ∨
      s.lastPass = none ∧ ¬ PassedAt lookUp s.stepName n ∧ ¬ FailedAt lookUp s.stepName n) :
    s.Bounds lookUp current seen' := by
  constructor
  · intro pass known
    obtain ⟨⟨within, passes⟩, greatest⟩ := bounds.passed pass known
    refine ⟨⟨more within, passes⟩, ?_⟩
    rintro n ⟨within', passes'⟩
    by_cases old : n ∈ seen
    · exact greatest ⟨old, passes'⟩
    · rcases quiet n within' old with ⟨other, same, before⟩ | ⟨unknown, -⟩
      · cases same.symm.trans known
        exact before.le
      · cases unknown.symm.trans known
  · intro unknown n within' passes
    by_cases old : n ∈ seen
    · exact bounds.unpassed unknown n old passes
    · rcases quiet n within' old with ⟨other, same, -⟩ | ⟨-, noPass, -⟩
      · cases unknown.symm.trans same
      · exact noPass passes
  · obtain ⟨member, least⟩ := bounds.failed
    constructor
    · rcases member with same | ⟨within, after, fails⟩
      · exact .inl same
      · exact .inr ⟨more within, after, fails⟩
    · rintro n (same | ⟨within', after, fails⟩)
      · exact least (.inl same)
      · by_cases old : n ∈ seen
        · exact least (.inr ⟨old, after, fails⟩)
        · rcases quiet n within' old with ⟨pass, known, before⟩ | ⟨-, -, noFailure⟩
          · have := after pass known
            omega
          · exact absurd fails noFailure

theorem Bounds.gap (bounds : s.Bounds lookUp current (Set.Ico (n + 1) current))
    (answer : lookUp n = .ok none) : s.Bounds lookUp current (Set.Ico n current) := by
  apply bounds.widen ico_succ_subset
  intro m within new
  have same : m = n := (ico_cases within).resolve_right new
  subst same
  cases known : s.lastPass with
  | some pass =>
    have after := (bounds.passed pass known).1.1.1
    exact .inl ⟨pass, rfl, by omega⟩
  | none =>
    refine .inr ⟨rfl, ?_, ?_⟩
    · rintro ⟨build, found, -⟩
      cases answer.symm.trans found
    · rintro ⟨build, found, -⟩
      cases answer.symm.trans found

theorem Bounds.markPassed (bounds : s.Bounds lookUp current (Set.Ico (n + 1) current))
    (below : n < current) (unknown : s.lastPass = none) (passes : PassedAt lookUp s.stepName n) :
    (s.markPassed n).Bounds lookUp current (Set.Ico n current) := by
  have noLater := bounds.unpassed unknown
  constructor
  · rintro pass ⟨⟩
    refine ⟨⟨⟨Int.le_refl n, below⟩, passes⟩, ?_⟩
    rintro m ⟨within, passes'⟩
    rcases ico_cases within with same | old
    · exact same.le
    · exact absurd passes' (noLater m old)
  · intro unknown'
    cases unknown'
  · -- All failures found so far come after this pass, so that none of them is dropped.
    obtain ⟨member, least⟩ := bounds.failed
    constructor
    · rcases member with same | ⟨within, -, fails⟩
      · exact .inl same
      · refine .inr ⟨ico_succ_subset within, ?_, fails⟩
        rintro pass ⟨⟩
        exact within.1
    · rintro m (same | ⟨within, after, fails⟩)
      · exact least (.inl same)
      · have later : n < m := after _ rfl
        refine least (.inr ⟨⟨by omega, within.2⟩, ?_, fails⟩)
        intro pass known
        cases unknown.symm.trans known

theorem Bounds.markFailed (bounds : s.Bounds lookUp current (Set.Ico (n + 1) current))
    (below : n < current) (unknown : s.lastPass = none) (build : Build)
    (noPass : ¬ PassedAt lookUp s.stepName n) (fails : FailedAt lookUp s.stepName n) :
    (s.markFailed build n).Bounds lookUp current (Set.Ico n current) := by
  have noLater := bounds.unpassed unknown
  have noneBefore : ∀ m, ∀ pass ∈ (s.markFailed build n).lastPass, pass < m := by
    intro m pass known
    cases unknown.symm.trans known
  constructor
  · intro pass known
    cases unknown.symm.trans known
  · intro _ m within passes
    rcases ico_cases within with rfl | old
    · exact noPass passes
    · exact noLater m old passes
  · constructor
    · exact .inr ⟨⟨Int.le_refl n, below⟩, noneBefore n, fails⟩
    · rintro m (same | ⟨within, -, -⟩)
      · rw [Set.mem_singleton_iff] at same
        rw [same]
        exact below.le
      · exact within.1

theorem Bounds.observe (bounds : s.Bounds lookUp current (Set.Ico (n + 1) current))
    (below : n < current) (answer : lookUp n = .ok (some build))
    (number : build.buildNumber = n) :
    (s.observe build).Bounds lookUp current (Set.Ico n current) := by
  have onwards : ∀ {m}, m ∈ Set.Ico n current → m ∉ Set.Ico (n + 1) current → m = n :=
    fun within new => (ico_cases within).resolve_right new
  have observed := s.observe_observed build
  generalize s.observe build = after at observed ⊢
  cases observed with
  | settled known =>
    apply bounds.widen ico_succ_subset
    intro m within new
    obtain ⟨pass, known⟩ := Option.isSome_iff_exists.mp known
    have later := (bounds.passed pass known).1.1.1
    have same := onwards within new
    exact .inl ⟨pass, known, by omega⟩
  | silent unknown noPass noFailure =>
    apply bounds.widen ico_succ_subset
    intro m within new
    have same := onwards within new
    subst same
    rw [passedAt_iff answer, failedAt_iff answer]
    exact .inr ⟨unknown, noPass, noFailure⟩
  | passed unknown shows =>
    rw [number]
    exact bounds.markPassed below unknown ((passedAt_iff answer).mpr shows)
  | failed unknown shows =>
    rw [number]
    apply bounds.markFailed below unknown build
    · rw [passedAt_iff answer]
      exact shows.1
    · exact (failedAt_iff answer).mpr shows

end FailedStep

/-- The builds a walk keeps: the current one, and those on record among some numbers. -/
def RegressionRange.Keeps (lookUp : Int → Except ProviderError (Option Build)) (current : Build)
    (seen : Set Int) (r : RegressionRange) : Prop :=
  ∀ n build, r.builds.get? n = some build ↔
    (n = current.buildNumber ∧ build = current) ∨ (n ∈ seen ∧ lookUp n = .ok (some build))

/-- A number is no older than all known passes, as long as every step has one. -/
def RegressionRange.Reaches (r : RegressionRange) (n : Int) : Prop :=
  (∀ step ∈ r.failedSteps, step.lastPass.isSome) →
    ∀ oldest ∈ (r.failedSteps.filterMap (·.lastPass)).min?, oldest ≤ n

structure RegressionRange.Walked (lookUp : Int → Except ProviderError (Option Build))
    (current : Build) (floor : Int) (r : RegressionRange) : Prop where
  bounds : ∀ step ∈ r.failedSteps,
    step.Bounds lookUp current.buildNumber (Set.Ico floor current.buildNumber)
  keeps : r.Keeps lookUp current (Set.Ico floor current.buildNumber)
  closedAt : r.isOpen = false → ∃ step ∈ r.failedSteps, step.lastPass = some floor

namespace RegressionRange

variable {lookUp : Int → Except ProviderError (Option Build)} {current build : Build} {n : Int}
  {r : RegressionRange}

theorem isOpen_iff : r.isOpen = true ↔ ∃ step ∈ r.failedSteps, step.lastPass = none := by
  simp [isOpen, Option.isNone_iff_eq_none]

theorem isOpen_eq_false_iff : r.isOpen = false ↔ ∀ step ∈ r.failedSteps, step.lastPass.isSome := by
  simp [isOpen, Option.isSome_iff_ne_none]

theorem Walked.gap (walked : r.Walked lookUp current (n + 1)) (isOpen : r.isOpen = true)
    (answer : lookUp n = .ok none) : r.Walked lookUp current n := by
  constructor
  · intro step member
    exact (walked.bounds step member).gap answer
  · intro m b
    rw [walked.keeps m b]
    refine or_congr_right (and_congr_left fun found => ⟨fun old => ico_succ_subset old, ?_⟩)
    intro within
    rcases ico_cases within with rfl | old
    · cases answer.symm.trans found
    · exact old
  · intro closed
    cases isOpen.symm.trans closed

theorem Walked.observe (walked : r.Walked lookUp current (n + 1)) (isOpen : r.isOpen = true)
    (below : n < current.buildNumber) (answer : lookUp n = .ok (some build))
    (number : build.buildNumber = n) : (r.observe build).Walked lookUp current n := by
  constructor
  · intro _ observed
    obtain ⟨step, member, rfl⟩ := List.mem_map.mp observed
    exact (walked.bounds step member).observe below answer number
  · intro m b
    unfold RegressionRange.observe
    rw [SortedMap.get?_insert, number]
    by_cases same : n = m
    · subst same
      rw [if_pos rfl, Option.some.injEq]
      constructor
      · rintro rfl
        exact .inr ⟨⟨Int.le_refl n, below⟩, answer⟩
      · rintro (⟨top, -⟩ | ⟨-, found⟩)
        · omega
        · cases answer.symm.trans found
          rfl
    · rw [if_neg same, walked.keeps m b]
      refine or_congr_right (and_congr_left fun found => ⟨fun old => ico_succ_subset old, ?_⟩)
      intro within
      exact (ico_cases within).resolve_left (Ne.symm same)
  · -- The step that was open is the one that this build closed.
    intro closed
    obtain ⟨step, member, unknown⟩ := isOpen_iff.mp isOpen
    have observed : step.observe build ∈ (r.observe build).failedSteps :=
      List.mem_map_of_mem member
    refine ⟨_, observed, ?_⟩
    have known := isOpen_eq_false_iff.mp closed _ observed
    rw [step.observe_lastPass, unknown, Option.none_or] at known ⊢
    split at known
    · rename_i shows
      rw [if_pos shows, number]
    · cases known

theorem Descended.visible {top floor : Int} {count : Nat}
    (descended : Descended lookUp top count floor) :
    Set.Ico floor top ⊆ PreviousBuilds.visible lookUp top count := by
  intro n within
  refine ⟨descended.scope n within.1 within.2, ?_⟩
  intro m inScope e failed
  by_contra later
  obtain ⟨found, answer⟩ := descended.answered m (by have := within.1; omega) inScope.2.2
  cases failed.symm.trans answer

theorem Descended.visible_eq {top floor : Int} {count : Nat}
    (descended : Descended lookUp top count floor) (halted : Halted lookUp top count floor r)
    (isOpen : r.isOpen = true) :
    PreviousBuilds.visible lookUp top count = Set.Ico floor top := by
  apply Set.Subset.antisymm _ descended.visible
  rintro n ⟨inScope, unfailed⟩
  obtain ⟨valid, bound, before⟩ := inScope
  refine ⟨?_, before⟩
  by_contra under
  have next : floor - 1 ∈ PreviousBuilds.scope top count := by
    have := descended.floor_le
    exact ⟨by omega, by omega, by omega⟩
  rcases halted isOpen with beyond | ⟨e, failed⟩
  · exact beyond next
  · have := unfailed (floor - 1) next e failed
    omega

theorem Walked.min?_lastPass {floor : Int} (walked : r.Walked lookUp current floor)
    (closed : r.isOpen = false) : (r.failedSteps.filterMap (·.lastPass)).min? = some floor := by
  obtain ⟨step, member, known⟩ := walked.closedAt closed
  rw [List.min?_eq_some_iff]
  constructor
  · exact List.mem_filterMap.mpr ⟨step, member, known⟩
  · intro pass listed
    obtain ⟨other, member', known'⟩ := List.mem_filterMap.mp listed
    exact ((walked.bounds other member').passed pass known').1.1.1

/-- Where every step has passed, what a walk did not look at is older than all passes. -/
theorem Walked.bounds_visible {floor : Int} {count : Nat} (walked : r.Walked lookUp current floor)
    (descended : Descended lookUp current.buildNumber count floor) (closed : r.isOpen = false)
    {step : FailedStep} (member : step ∈ r.failedSteps) :
    step.Bounds lookUp current.buildNumber
      (PreviousBuilds.visible lookUp current.buildNumber count) := by
  have bounds := walked.bounds step member
  apply bounds.widen descended.visible
  intro n inSight beyond
  obtain ⟨pass, known⟩ :=
    Option.isSome_iff_exists.mp (isOpen_eq_false_iff.mp closed step member)
  have above := (bounds.passed pass known).1.1.1
  have before : n < current.buildNumber := inSight.1.2.2
  have under : n < floor := by
    by_contra later
    exact beyond ⟨by omega, before⟩
  exact .inl ⟨pass, known, by omega⟩

theorem Walked.reached {floor : Int} {count : Nat} (walked : r.Walked lookUp current floor)
    (descended : Descended lookUp current.buildNumber count floor) (closed : r.isOpen = false) :
    {n ∈ PreviousBuilds.visible lookUp current.buildNumber count | r.Reaches n} =
      Set.Ico floor current.buildNumber := by
  have oldest := walked.min?_lastPass closed
  apply Set.Subset.antisymm
  · rintro n ⟨inSight, reaches⟩
    exact ⟨reaches (isOpen_eq_false_iff.mp closed) floor oldest, inSight.1.2.2⟩
  · intro n within
    refine ⟨descended.visible within, ?_⟩
    intro _ other same
    cases oldest.symm.trans same
    exact within.1

theorem walked_start {steps : List FailedStep} (nonempty : steps ≠ [])
    (fresh : ∀ step ∈ steps, step.firstFailure = current.buildNumber ∧ step.lastPass = none) :
    Walked lookUp current current.buildNumber
      ⟨steps, .ofList [(current.buildNumber, current)]⟩ := by
  constructor
  · intro step member
    obtain ⟨failure, unknown⟩ := fresh step member
    simp only [Set.Ico_self]
    constructor
    · intro pass known
      cases unknown.symm.trans known
    · rintro - n ⟨⟩
    · constructor
      · exact .inl failure
      · rintro n (same | ⟨⟨⟩, -⟩)
        rw [Set.mem_singleton_iff] at same
        rw [failure, same]
  · intro n b
    simp only [SortedMap.ofList, List.foldl_cons, List.foldl_nil, SortedMap.get?_insert]
    by_cases same : current.buildNumber = n
    · simp [same, eq_comm]
    · simp [same, Ne.symm same, SortedMap.get?_empty]
  · intro closed
    obtain ⟨step, rest, rfl⟩ := List.exists_cons_of_ne_nil nonempty
    have unknown := (fresh step List.mem_cons_self).2
    have known := isOpen_eq_false_iff.mp closed step List.mem_cons_self
    rw [unknown] at known
    cases known

end RegressionRange

section Found

variable {history : BuildHistory} (answers : history.AnswersByNumber) (config : Config)
  (current : Build) {steps : List FailedStep} (nonempty : steps ≠ [])
  (fresh : ∀ step ∈ steps, step.firstFailure = current.buildNumber ∧ step.lastPass = none)

include answers nonempty fresh

theorem findRegressionRange_walked :
    ∃ floor, RegressionRange.Descended (history current.project current.builder)
        current.buildNumber config.maxBuildsToCheck floor ∧
      (findRegressionRange history config current steps).Walked
        (history current.project current.builder) current floor ∧
      RegressionRange.Halted (history current.project current.builder) current.buildNumber
        config.maxBuildsToCheck floor (findRegressionRange history config current steps) := by
  apply RegressionRange.extend_descends
  · intro n r _ isOpen answer walked
    exact walked.gap isOpen answer
  · intro n r build below isOpen answer walked
    exact walked.observe isOpen below answer (answers _ _ n build answer)
  · exact RegressionRange.walked_start nonempty fresh

theorem findRegressionRange_sees :
    let lookUp := history current.project current.builder
    let visible := PreviousBuilds.visible lookUp current.buildNumber config.maxBuildsToCheck
    let range := findRegressionRange history config current steps
    range.failedSteps.map (·.stepName) = steps.map (·.stepName) ∧
      (∀ step ∈ range.failedSteps, step.Bounds lookUp current.buildNumber visible) ∧
      range.Keeps lookUp current {n ∈ visible | range.Reaches n} := by
  intro lookUp visible range
  obtain ⟨floor, descended, walked, halted⟩ :=
    findRegressionRange_walked answers config current nonempty fresh
  have names : range.failedSteps.map (·.stepName) = steps.map (·.stepName) := by
    have same : range.failedSteps.map (fun step => (step.stepName, step.supported)) =
        steps.map fun step => (step.stepName, step.supported) :=
      RegressionRange.extend_names _ _
    have named := congrArg (List.map (·.1)) same
    rw [List.map_map, List.map_map] at named
    exact named
  refine ⟨names, ?_⟩
  cases isOpen : range.isOpen with
  | true =>
    have all : visible = Set.Ico floor current.buildNumber :=
      descended.visible_eq halted isOpen
    have reaches : ∀ n, range.Reaches n := by
      intro n passed
      cases isOpen.symm.trans (RegressionRange.isOpen_eq_false_iff.mpr passed)
    rw [all]
    refine ⟨walked.bounds, ?_⟩
    simp only [reaches, and_true]
    exact walked.keeps
  | false =>
    constructor
    · intro step member
      exact walked.bounds_visible descended isOpen member
    · have kept : {n ∈ visible | range.Reaches n} = Set.Ico floor current.buildNumber :=
        walked.reached descended isOpen
      rw [kept]
      exact walked.keeps

end Found

/-- There is a range of failing steps as long as the number below that of the build fits. It gives
for each step the last build that can be seen in which it passed, and the first failure after that.
It keeps the builds that can be seen, from the oldest pass on if every step is known to have
passed. -/
theorem findRegressionRange_boundary {history : BuildHistory} (answers : history.AnswersByNumber)
    (config : Config) (current : Build) {steps : List FailedStep} (nonempty : steps ≠ [])
    (fresh : ∀ step ∈ steps,
      step.firstFailure = current.buildNumber ∧ step.lastPass = none) :
    let lookUp := history current.project current.builder
    let visible := PreviousBuilds.visible lookUp current.buildNumber config.maxBuildsToCheck
    let found := findRegressionRange? history config current steps
    found.isSome = fitsInt64 (current.buildNumber - 1) ∧
      ∀ range ∈ found, range.failedSteps.map (·.stepName) = steps.map (·.stepName) ∧
        (∀ step ∈ range.failedSteps, step.Bounds lookUp current.buildNumber visible) ∧
        range.Keeps lookUp current {n ∈ visible | range.Reaches n} := by
  intro lookUp visible found
  refine ⟨isSome_findRegressionRange? .., ?_⟩
  intro range walked
  obtain ⟨-, rfl⟩ := findRegressionRange?_eq_some.mp walked
  exact findRegressionRange_sees answers config current nonempty fresh

namespace Outage

def build (number : Int) (failed passed : List String) : Build :=
  ⟨"chromium", "ci", "linux", number, none, .failure, "r", none, [], .ofList failed,
    .ofList passed, .empty, none⟩

/-- A history in which build 8 is missing, and what is older than build 6 cannot be looked up. -/
def history : BuildHistory := fun _ _ number =>
  if number = 9 then .ok (some (build 9 ["compile", "tests"] []))
  else if number = 8 then .ok none
  else if number = 7 then .ok (some (build 7 ["compile"] ["tests"]))
  else if number = 6 then .ok (some (build 6 ["archive"] ["compile"]))
  else .error (.unavailable "build history" "timeout")

theorem answers : history.AnswersByNumber := by
  intro _ _ number found answered
  unfold history at answered
  split at answered
  · rename_i same
    cases answered
    exact same.symm
  · split at answered
    · cases answered
    · split at answered
      · rename_i same
        cases answered
        exact same.symm
      · split at answered
        · rename_i same
          cases answered
          exact same.symm
        · cases answered

def current : Build := build 10 ["archive", "compile", "tests"] []

def steps : List FailedStep := initialFailedSteps .standard current fun _ => true

def least : Build := build (-9223372036854775808) ["archive", "compile", "tests"] []

theorem boundary_above_outage :
    (∃ range ∈ findRegressionRange? history .standard current steps,
      range.failedSteps.map (fun step => (step.stepName, step.lastPass, step.firstFailure)) =
          [("archive", none, 6), ("compile", some 6, 7), ("tests", some 7, 9)] ∧
        (∀ step ∈ range.failedSteps, step.Bounds (history "chromium" "linux") 10
          (PreviousBuilds.visible (history "chromium" "linux") 10
            Config.standard.maxBuildsToCheck)) ∧
        (range.builds.get? 6).isSome ∧ range.builds.get? 8 = none) ∧
      findRegressionRange? history .standard least
        (initialFailedSteps .standard least fun _ => true) = none := by
  have nonempty : steps ≠ [] := by decide +kernel
  have fresh : ∀ step ∈ steps,
      step.firstFailure = current.buildNumber ∧ step.lastPass = none := by
    decide +kernel
  obtain ⟨-, seen⟩ := findRegressionRange_boundary answers Config.standard current nonempty fresh
  have fresh' : ∀ step ∈ initialFailedSteps .standard least fun _ => true,
      step.firstFailure = least.buildNumber ∧ step.lastPass = none := by
    decide +kernel
  obtain ⟨unseen, -⟩ := findRegressionRange_boundary answers Config.standard least
    (by decide +kernel) fresh'
  have walked : findRegressionRange? history .standard current steps =
      some (findRegressionRange history .standard current steps) := findRegressionRange?_eq ..
  refine ⟨⟨_, walked, by decide +kernel, (seen _ walked).2.1, by decide +kernel,
    by decide +kernel⟩, ?_⟩
  exact Option.isNone_iff_eq_none.mp (Option.isSome_eq_false_iff.mp unseen)

end Outage

end CulpritFinding
