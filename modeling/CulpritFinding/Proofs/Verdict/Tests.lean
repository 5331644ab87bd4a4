import CulpritFinding.Proofs.Verdict.Faults
import CulpritFinding.Proofs.Verdict.Readings
import Mathlib.Data.List.Forall2
import Mathlib.Tactic.Tauto

namespace CulpritFinding

namespace TryJobRange

def Asks (range : TryJobRange) (step test : String) : Prop :=
  ∃ tests, range.tests.get? step = some tests ∧ test ∈ tests

/-- No other test of the range goes by the name of this one. -/
def Alone (range : TryJobRange) (step test : String) : Prop :=
  ∀ step' test', range.Asks step' test' → step' ++ "/" ++ test' = step ++ "/" ++ test →
    step' = step ∧ test' = test

/-- The tests of a range, each with its step, in the order in which they are judged. -/
def stepTests (range : TryJobRange) : List (String × String) :=
  range.tests.toList.flatMap fun e => e.2.map fun test => (e.1, test)

theorem mem_stepTests {range : TryJobRange} {step test : String} :
    (step, test) ∈ range.stepTests ↔ range.Asks step test := by
  unfold stepTests Asks
  simp only [List.mem_flatMap, List.mem_map, Prod.mk.injEq, SortedMap.get?_eq_some]
  constructor
  · rintro ⟨e, member, test', listed, rfl, rfl⟩
    exact ⟨e.2, member, listed⟩
  · rintro ⟨tests, member, listed⟩
    exact ⟨(step, tests), member, test, listed, rfl, rfl⟩

instance (range : TryJobRange) (step test : String) : Decidable (range.Asks step test) :=
  decidable_of_iff _ mem_stepTests

theorem alone_iff {range : TryJobRange} {step test : String} : range.Alone step test ↔
    ∀ t ∈ range.stepTests, t.1 ++ "/" ++ t.2 = step ++ "/" ++ test → t = (step, test) := by
  simp only [Alone, ← mem_stepTests, Prod.forall, Prod.mk.injEq]

instance (range : TryJobRange) (step test : String) : Decidable (range.Alone step test) :=
  decidable_of_iff _ alone_iff.symm

end TryJobRange

def Origin.culprit? : Origin → Option String
  | culprit revision => some revision
  | _ => none

namespace Verdict

def blamed? : Verdict → String → Option String
  | found culprits _, failure => culprits.get? failure
  | _, _ => none

def Doubts : Verdict → String → Prop
  | found _ doubtful, failure => failure ∈ doubtful.toList
  | flaky failures, failure => failure ∈ failures.toList
  | inconclusive _, _ => False

/-- How a verdict lists a failure: with the revision that it blames, as flaky, or not at all. -/
def Lists (v : Verdict) (failure : String) : Origin → Prop
  | .culprit revision => v.blamed? failure = some revision ∧ ¬ v.Doubts failure
  | .flaky => v.blamed? failure = none ∧ v.Doubts failure
  | .undecided => v.blamed? failure = none ∧ ¬ v.Doubts failure

instance (failure : String) : (v : Verdict) → Decidable (v.Doubts failure)
  | found _ doubtful => inferInstanceAs (Decidable (failure ∈ doubtful.toList))
  | flaky failures => inferInstanceAs (Decidable (failure ∈ failures.toList))
  | inconclusive _ => inferInstanceAs (Decidable False)

instance (v : Verdict) (failure : String) : (o : Origin) → Decidable (v.Lists failure o)
  | .culprit revision =>
    inferInstanceAs (Decidable (v.blamed? failure = some revision ∧ ¬ v.Doubts failure))
  | .flaky => inferInstanceAs (Decidable (v.blamed? failure = none ∧ v.Doubts failure))
  | .undecided => inferInstanceAs (Decidable (v.blamed? failure = none ∧ ¬ v.Doubts failure))

theorem lists_iff {v : Verdict} {failure : String} {ruled : Origin}
    (blamed : v.blamed? failure = ruled.culprit?) (doubted : v.Doubts failure ↔ ruled = .flaky)
    (o : Origin) : v.Lists failure o ↔ ruled = o := by
  cases ruled <;> cases o <;> simp [Lists, blamed, doubted, Origin.culprit?]

end Verdict

/-- What a verdict has to say about a test: a culprit that the report names for it counts, and
otherwise its own outcomes do. -/
inductive TestRuling (r : TryJobReport) (good bad step test : String) : Origin → Prop
  | named {revision : String} (named : r.culprits.get? (step ++ "/" ++ test) = some revision) :
      TestRuling r good bad step test (.culprit revision)
  | judged {o : Origin} (unnamed : r.culprits.get? (step ++ "/" ++ test) = none)
      (judges : (Reading.test step test).Judges r.results good bad o) :
      TestRuling r good bad step test o

namespace TryJobReport

def testOrigin (r : TryJobReport) (good bad : String) (t : String × String) : Origin :=
  Trial.origin (r.testTrials t.1 t.2) good bad

def ruledOrigin (r : TryJobReport) (good bad step test : String) : Origin :=
  match r.culprits.get? (step ++ "/" ++ test) with
  | some revision => .culprit revision
  | none => r.testOrigin good bad (step, test)

end TryJobReport

theorem Reading.tells_test (results : List RevisionResult) (step test : String) :
    (Reading.test step test).Tells results fun result =>
      ⟨result.revision,
        ((result.steps.get? step).filter (·.valid)).map fun o => o.failures.contains test⟩ := by
  constructor
  · intro result _
    rfl
  all_goals
    intro result _
    cases ran : result.steps.get? step with
    | none => simp [Reading.test, ran]
    | some o => cases valid : o.valid <;> simp [Reading.test, ran, valid]

theorem testRuling_iff {r : TryJobReport} (sound : r.Sound) {good bad step test : String}
    {o : Origin} : TestRuling r good bad step test o ↔ r.ruledOrigin good bad step test = o := by
  have origin {o : Origin} : r.testOrigin good bad (step, test) = o ↔
      (Reading.test step test).Judges r.results good bad o :=
    (Reading.tells_test r.results step test).origin_eq_iff sound.unique
  unfold TryJobReport.ruledOrigin
  cases known : r.culprits.get? (step ++ "/" ++ test) with
  | some revision =>
    constructor
    · intro ruling
      cases ruling with
      | named named =>
        cases known.symm.trans named
        rfl
      | judged unnamed => cases known.symm.trans unnamed
    · rintro rfl
      exact .named known
  | none =>
    constructor
    · intro ruling
      cases ruling with
      | named named => cases known.symm.trans named
      | judged _ judges => exact origin.mpr judges
    · intro found
      exact .judged known (origin.mp found)

namespace TryJobReport.TestFindings

variable (r : TryJobReport) (good bad : String)

def judgeAll (f : TestFindings) (tests : List (String × String)) : TestFindings :=
  tests.foldl (fun f t => judge r good bad t.1 f t.2) f

def failure (t : String × String) : String := t.1 ++ "/" ++ t.2

theorem judge_of_named {f : TestFindings} {t : String × String} {revision : String}
    (named : f.culprits.get? (failure t) = some revision) : judge r good bad t.1 f t.2 = f := by
  have listed : f.culprits.contains (failure t) = true := by
    rw [SortedMap.contains_eq_isSome, named]
    rfl
  exact if_pos listed

theorem judge_of_unnamed {f : TestFindings} {t : String × String}
    (unnamed : f.culprits.get? (failure t) = none) :
    judge r good bad t.1 f t.2 = match r.testOrigin good bad t with
      | .culprit revision => { f with culprits := f.culprits.insert (failure t) revision }
      | .flaky => { f with flaky := f.flaky.insert (failure t) }
      | .undecided => f := by
  have unlisted : ¬ f.culprits.contains (failure t) = true := by
    rw [SortedMap.contains_eq_isSome, unnamed]
    exact Bool.false_ne_true
  exact if_neg unlisted

theorem get?_judge (f : TestFindings) (t : String × String) (name : String) :
    (judge r good bad t.1 f t.2).culprits.get? name = (f.culprits.get? name).or
      (if failure t = name then (r.testOrigin good bad t).culprit? else none) := by
  cases known : f.culprits.get? (failure t) with
  | some revision =>
    rw [judge_of_named r good bad known]
    by_cases own : failure t = name
    · simp [← own, known]
    · simp [own]
  | none =>
    rw [judge_of_unnamed r good bad known]
    cases r.testOrigin good bad t with
    | culprit revision =>
      simp only [SortedMap.get?_insert]
      by_cases own : failure t = name
      · simp [← own, known, Origin.culprit?]
      · simp [own]
    | flaky | undecided => simp [Origin.culprit?]

theorem mem_flaky_judge (f : TestFindings) (t : String × String) (name : String) :
    name ∈ (judge r good bad t.1 f t.2).flaky.toList ↔ name ∈ f.flaky.toList ∨
      (failure t = name ∧ f.culprits.get? name = none ∧ r.testOrigin good bad t = .flaky) := by
  cases known : f.culprits.get? (failure t) with
  | some revision =>
    have other : ¬ (failure t = name ∧ f.culprits.get? name = none ∧
        r.testOrigin good bad t = .flaky) := by
      rintro ⟨rfl, unnamed, -⟩
      cases known.symm.trans unnamed
    rw [judge_of_named r good bad known]
    simp [other]
  | none =>
    rw [judge_of_unnamed r good bad known]
    cases r.testOrigin good bad t with
    | culprit | undecided => simp
    | flaky =>
      rw [SortedSet.mem_insert]
      by_cases own : failure t = name
      · simp [← own, known]
      · simp [own, Ne.symm own]

section Alike

variable {r good bad} {name : String} {o : Origin} {tests : List (String × String)}
  (alike : ∀ t ∈ tests, failure t = name → r.testOrigin good bad t = o)

include alike

theorem get?_judgeAll (f : TestFindings) :
    (judgeAll r good bad f tests).culprits.get? name = (f.culprits.get? name).or
      (if name ∈ tests.map failure then o.culprit? else none) := by
  induction tests generalizing f with
  | nil => simp [judgeAll]
  | cons t rest ih =>
    have later := ih (fun t' member => alike t' (List.mem_cons_of_mem _ member))
      (judge r good bad t.1 f t.2)
    change (judgeAll r good bad (judge r good bad t.1 f t.2) rest).culprits.get? name = _
    rw [later, get?_judge, Option.or_assoc, List.map_cons]
    by_cases own : failure t = name
    · have listed : name ∈ failure t :: rest.map failure := by simp [own]
      rw [alike t List.mem_cons_self own, if_pos own, if_pos listed]
      split
      · rw [Option.or_self]
      · rw [Option.or_none]
    · have apart : name ∈ failure t :: rest.map failure ↔ name ∈ rest.map failure := by
        simp [Ne.symm own]
      simp only [own, if_false, Option.none_or, apart]

theorem mem_flaky_judgeAll (f : TestFindings) :
    name ∈ (judgeAll r good bad f tests).flaky.toList ↔ name ∈ f.flaky.toList ∨
      (name ∈ tests.map failure ∧ f.culprits.get? name = none ∧ o = .flaky) := by
  induction tests generalizing f with
  | nil => simp [judgeAll]
  | cons t rest ih =>
    have later := ih (fun t' member => alike t' (List.mem_cons_of_mem _ member))
      (judge r good bad t.1 f t.2)
    change name ∈ (judgeAll r good bad (judge r good bad t.1 f t.2) rest).flaky.toList ↔ _
    rw [later, mem_flaky_judge, get?_judge, List.map_cons]
    by_cases own : failure t = name
    · have listed : name ∈ failure t :: rest.map failure := by simp [own]
      rw [alike t List.mem_cons_self own]
      by_cases flaky : o = .flaky
      · simp only [own, flaky, Origin.culprit?, ite_self, Option.or_none, true_and, and_true]
        tauto
      · simp [flaky]
    · simp [own, Ne.symm own]

end Alike

theorem culprits_judge_isEmpty {f : TestFindings} {t : String × String} :
    (judge r good bad t.1 f t.2).culprits.isEmpty = true ↔
      f.culprits.isEmpty = true ∧ (r.testOrigin good bad t).culprit? = none := by
  simp only [SortedMap.isEmpty_iff, get?_judge, Option.or_eq_none_iff]
  constructor
  · intro nothing
    exact ⟨fun name => (nothing name).1, by simpa using (nothing (failure t)).2⟩
  · rintro ⟨nothing, unblamed⟩ name
    exact ⟨nothing name, by simp [unblamed]⟩

theorem culprits_judgeAll_isEmpty {f : TestFindings} {tests : List (String × String)} :
    (judgeAll r good bad f tests).culprits.isEmpty = true ↔ f.culprits.isEmpty = true ∧
      ∀ t ∈ tests, (r.testOrigin good bad t).culprit? = none := by
  induction tests generalizing f with
  | nil => simp [judgeAll]
  | cons t rest ih =>
    change (judgeAll r good bad (judge r good bad t.1 f t.2) rest).culprits.isEmpty = true ↔ _
    rw [ih, culprits_judge_isEmpty, List.forall_mem_cons, and_assoc]

theorem flaky_judge_isEmpty {f : TestFindings} (unnamed : f.culprits.isEmpty = true)
    {t : String × String} :
    (judge r good bad t.1 f t.2).flaky.isEmpty = true ↔
      f.flaky.isEmpty = true ∧ r.testOrigin good bad t ≠ .flaky := by
  simp only [SortedSet.isEmpty_iff, mem_flaky_judge, not_or]
  constructor
  · intro nothing
    refine ⟨fun name => (nothing name).1, fun flaky => ?_⟩
    exact (nothing (failure t)).2 ⟨rfl, SortedMap.isEmpty_iff.mp unnamed _, flaky⟩
  · rintro ⟨nothing, steady⟩ name
    exact ⟨nothing name, fun found => steady found.2.2⟩

theorem flaky_judgeAll_isEmpty {f : TestFindings} {tests : List (String × String)}
    (unnamed : (judgeAll r good bad f tests).culprits.isEmpty = true) :
    (judgeAll r good bad f tests).flaky.isEmpty = true ↔ f.flaky.isEmpty = true ∧
      ∀ t ∈ tests, r.testOrigin good bad t ≠ .flaky := by
  induction tests generalizing f with
  | nil => simp [judgeAll]
  | cons t rest ih =>
    have before := (culprits_judgeAll_isEmpty r good bad).mp unnamed
    change (judgeAll r good bad (judge r good bad t.1 f t.2) rest).flaky.isEmpty = true ↔ _
    rw [ih unnamed, flaky_judge_isEmpty r good bad before.1, List.forall_mem_cons, and_assoc]

end TryJobReport.TestFindings

namespace TryJobReport

variable (r : TryJobReport) (range : TryJobRange) (good bad : String)

theorem testFindings_eq : r.testFindings range good bad =
    TestFindings.judgeAll r good bad ⟨r.culprits, .empty⟩ range.stepTests := by
  unfold testFindings TestFindings.judgeAll TryJobRange.stepTests
  rw [List.foldl_flatMap]
  simp only [List.foldl_map]

theorem testVerdict_cases :
    let f := r.testFindings range good bad
    (r.testVerdict range good bad = .found f.culprits f.flaky ∧ f.culprits.isEmpty = false) ∨
      (r.testVerdict range good bad = .flaky f.flaky ∧
        f.culprits.isEmpty = true ∧ f.flaky.isEmpty = false) ∨
      (r.testVerdict range good bad =
          .inconclusive "no test reproduced between the good and bad revisions" ∧
        f.culprits.isEmpty = true ∧ f.flaky.isEmpty = true) := by
  intro f
  unfold testVerdict
  cases named : f.culprits.isEmpty with
  | false => simp [f, named]
  | true => cases doubted : f.flaky.isEmpty <;> simp [f, named, doubted]

theorem blamed?_testVerdict (name : String) : (r.testVerdict range good bad).blamed? name =
    (r.testFindings range good bad).culprits.get? name := by
  obtain ⟨v, -⟩ | ⟨v, unnamed, -⟩ | ⟨v, unnamed, -⟩ := r.testVerdict_cases range good bad
  · rw [v]
    rfl
  · rw [v]
    exact (SortedMap.isEmpty_iff.mp unnamed name).symm
  · rw [v]
    exact (SortedMap.isEmpty_iff.mp unnamed name).symm

theorem doubts_testVerdict (name : String) : (r.testVerdict range good bad).Doubts name ↔
    name ∈ (r.testFindings range good bad).flaky.toList := by
  obtain ⟨v, -⟩ | ⟨v, -⟩ | ⟨v, -, steady⟩ := r.testVerdict_cases range good bad
  · rw [v]
    rfl
  · rw [v]
    rfl
  · rw [v]
    exact iff_of_false id (SortedSet.isEmpty_iff.mp steady name)

/-- A test that has its name for itself is listed by what the report says about it. -/
theorem lists_testVerdict {step test : String} (asked : range.Asks step test)
    (alone : range.Alone step test) (o : Origin) :
    (r.testVerdict range good bad).Lists (step ++ "/" ++ test) o ↔
      r.ruledOrigin good bad step test = o := by
  have listed : step ++ "/" ++ test ∈ range.stepTests.map TestFindings.failure :=
    List.mem_map.mpr ⟨(step, test), TryJobRange.mem_stepTests.mpr asked, rfl⟩
  have alike : ∀ t ∈ range.stepTests, TestFindings.failure t = step ++ "/" ++ test →
      r.testOrigin good bad t = r.testOrigin good bad (step, test) := by
    intro t member same
    obtain ⟨sameStep, sameTest⟩ := alone t.1 t.2 (TryJobRange.mem_stepTests.mp member) same
    rw [← sameStep, ← sameTest]
  have blamed := TestFindings.get?_judgeAll alike ⟨r.culprits, .empty⟩
  have doubted := TestFindings.mem_flaky_judgeAll alike ⟨r.culprits, .empty⟩
  rw [← testFindings_eq, ← blamed?_testVerdict, if_pos listed] at blamed
  rw [← testFindings_eq, ← doubts_testVerdict] at doubted
  have empty : step ++ "/" ++ test ∉ (SortedSet.empty : SortedSet String).toList :=
    List.not_mem_nil
  simp only [listed, empty, true_and, false_or] at doubted
  apply Verdict.lists_iff
  · rw [blamed]
    unfold ruledOrigin
    cases r.culprits.get? (step ++ "/" ++ test) <;> rfl
  · rw [doubted]
    unfold ruledOrigin
    cases r.culprits.get? (step ++ "/" ++ test) <;> simp

theorem testVerdict_found : (∃ culprits doubtful, r.testVerdict range good bad =
      .found culprits doubtful) ↔ (r.testFindings range good bad).culprits.isEmpty = false := by
  obtain ⟨v, named⟩ | ⟨v, named, -⟩ | ⟨v, named, -⟩ := r.testVerdict_cases range good bad <;>
    simp [v, named]

theorem testVerdict_flaky : (∃ failures, r.testVerdict range good bad = .flaky failures) ↔
    (r.testFindings range good bad).culprits.isEmpty = true ∧
      (r.testFindings range good bad).flaky.isEmpty = false := by
  obtain ⟨v, named⟩ | ⟨v, named, doubted⟩ | ⟨v, named, doubted⟩ :=
    r.testVerdict_cases range good bad <;> simp [*]

theorem testVerdict_inconclusive : r.testVerdict range good bad =
      .inconclusive "no test reproduced between the good and bad revisions" ↔
    (r.testFindings range good bad).culprits.isEmpty = true ∧
      (r.testFindings range good bad).flaky.isEmpty = true := by
  obtain ⟨v, named⟩ | ⟨v, named, doubted⟩ | ⟨v, named, doubted⟩ :=
    r.testVerdict_cases range good bad <;> simp [*]

theorem ruledOrigin_of_unnamed {step test : String}
    (unnamed : r.culprits.get? (step ++ "/" ++ test) = none) :
    r.ruledOrigin good bad step test = r.testOrigin good bad (step, test) := by
  unfold ruledOrigin
  rw [unnamed]

theorem culprits_testFindings_isEmpty :
    (r.testFindings range good bad).culprits.isEmpty = true ↔ r.culprits.isEmpty = true ∧
      ∀ step test, range.Asks step test → ∀ revision,
        r.ruledOrigin good bad step test ≠ .culprit revision := by
  rw [testFindings_eq, TestFindings.culprits_judgeAll_isEmpty]
  apply and_congr_right
  intro unnamed
  have none := SortedMap.isEmpty_iff.mp unnamed
  constructor
  · intro unblamed step test asked revision ruled
    rw [ruledOrigin_of_unnamed r good bad (none _)] at ruled
    have own := unblamed (step, test) (TryJobRange.mem_stepTests.mpr asked)
    rw [ruled] at own
    cases own
  · rintro unblamed ⟨step, test⟩ member
    have ruled := unblamed step test (TryJobRange.mem_stepTests.mp member)
    rw [ruledOrigin_of_unnamed r good bad (none _)] at ruled
    cases found : r.testOrigin good bad (step, test) with
    | culprit revision => exact absurd found (ruled revision)
    | flaky | undecided => rfl

theorem flaky_testFindings_isEmpty
    (unblamed : (r.testFindings range good bad).culprits.isEmpty = true) :
    (r.testFindings range good bad).flaky.isEmpty = true ↔
      ∀ step test, range.Asks step test → r.ruledOrigin good bad step test ≠ .flaky := by
  have named := ((culprits_testFindings_isEmpty r range good bad).mp unblamed).1
  have none := SortedMap.isEmpty_iff.mp named
  rw [testFindings_eq] at unblamed
  rw [testFindings_eq, TestFindings.flaky_judgeAll_isEmpty r good bad unblamed]
  constructor
  · rintro ⟨-, steady⟩ step test asked
    rw [ruledOrigin_of_unnamed r good bad (none _)]
    exact steady (step, test) (TryJobRange.mem_stepTests.mpr asked)
  · intro steady
    refine ⟨rfl, ?_⟩
    rintro ⟨step, test⟩ member
    rw [← ruledOrigin_of_unnamed r good bad (none _)]
    exact steady step test (TryJobRange.mem_stepTests.mp member)

end TryJobReport

structure TestsRuling (r : TryJobReport) (range : TryJobRange) (good bad : String) (v : Verdict) :
    Prop where
  lists : ∀ step test, range.Asks step test → range.Alone step test → ∀ o,
    (v.Lists (step ++ "/" ++ test) o ↔ TestRuling r good bad step test o)
  found : (∃ culprits doubtful, v = .found culprits doubtful) ↔
    r.culprits.isEmpty = false ∨ ∃ step test revision, range.Asks step test ∧
      TestRuling r good bad step test (.culprit revision)
  flaky : (∃ failures, v = .flaky failures) ↔
    (¬ ∃ culprits doubtful, v = .found culprits doubtful) ∧ ∃ step test, range.Asks step test ∧
      TestRuling r good bad step test .flaky
  inconclusive : v = .inconclusive "no test reproduced between the good and bad revisions" ↔
    (¬ ∃ culprits doubtful, v = .found culprits doubtful) ∧ ¬ ∃ failures, v = .flaky failures

theorem testsRuling {r : TryJobReport} (sound : r.Sound) (range : TryJobRange)
    (good bad : String) : TestsRuling r range good bad (r.testVerdict range good bad) := by
  have blames := r.culprits_testFindings_isEmpty range good bad
  constructor
  · intro step test asked alone o
    rw [testRuling_iff sound]
    exact r.lists_testVerdict range good bad asked alone o
  · rw [r.testVerdict_found, ← Bool.not_eq_true, blames]
    simp only [testRuling_iff sound, not_and_or, Bool.not_eq_true, not_forall, ne_eq, not_not,
      exists_prop, exists_and_left]
  · rw [r.testVerdict_found, r.testVerdict_flaky, Bool.not_eq_false]
    apply and_congr_right
    intro unblamed
    rw [← Bool.not_eq_true, r.flaky_testFindings_isEmpty range good bad unblamed]
    simp only [testRuling_iff sound, not_forall, ne_eq, not_not, exists_prop]
  · rw [r.testVerdict_found, r.testVerdict_flaky, r.testVerdict_inconclusive, Bool.not_eq_false]
    simp +contextual

section

variable (step test : String)

/-- Runs of a step that agree on a test of it, whatever other tests failed in them. -/
def StepOutcome.AgreeOn (o o' : StepOutcome) : Prop :=
  o.valid = o'.valid ∧ (test ∈ o.failures ↔ test ∈ o'.failures)

structure RevisionResult.AgreeOn (result result' : RevisionResult) : Prop where
  revision : result.revision = result'.revision
  step : Option.Rel (StepOutcome.AgreeOn test) (result.steps.get? step) (result'.steps.get? step)

/-- Reports that agree on a test, whatever other tests failed in them. -/
structure TryJobReport.AgreeOn (r r' : TryJobReport) : Prop where
  good : r.goodRevision = r'.goodRevision
  bad : r.badRevision = r'.badRevision
  named : r.culprits.get? (step ++ "/" ++ test) = r'.culprits.get? (step ++ "/" ++ test)
  results : List.Forall₂ (RevisionResult.AgreeOn step test) r.results r'.results

end

theorem StepOutcome.shown_eq {test : String} {ran ran' : Option StepOutcome}
    (agree : Option.Rel (AgreeOn test) ran ran') :
    ((ran.filter (·.valid)).map fun o => o.failures.contains test) =
      (ran'.filter (·.valid)).map fun o => o.failures.contains test := by
  cases agree with
  | none => rfl
  | some same => simp [Option.filter_some, same.1, same.2]

namespace TryJobReport.AgreeOn

variable {step test : String} {r r' : TryJobReport} (agree : r.AgreeOn step test r')

include agree

theorem testTrials_eq : r.testTrials step test = r'.testTrials step test := by
  unfold testTrials
  have alike := agree.results
  generalize r.results = results, r'.results = results' at alike ⊢
  induction alike with
  | nil => rfl
  | cons same _ ih =>
    rw [List.map_cons, List.map_cons, ih, same.revision, StepOutcome.shown_eq same.step]

theorem ruledOrigin_eq (good bad : String) :
    r.ruledOrigin good bad step test = r'.ruledOrigin good bad step test := by
  unfold ruledOrigin testOrigin
  rw [agree.named, agree.testTrials_eq]

end TryJobReport.AgreeOn

/-- The verdict on tests judges them one by one, and what it says about one of them does not depend
on which others failed. -/
theorem identifyCulprit_test {report : TryJobReport} (sound : report.fault? = none)
    (range : TryJobRange) :
    let good := report.goodRevision.getD range.goodRevision
    let bad := report.badRevision.getD range.badRevision
    let v := identifyCulprit .test report range
    TestsRuling report range good bad v ∧
      ∀ step test, range.Asks step test → range.Alone step test →
        ∀ report', report'.fault? = none → report.AgreeOn step test report' → ∀ o,
          (v.Lists (step ++ "/" ++ test) o ↔
            (identifyCulprit .test report' range).Lists (step ++ "/" ++ test) o) := by
  intro good bad v
  have verdict {r : TryJobReport} (sound : r.fault? = none) : identifyCulprit .test r range =
      r.testVerdict range (r.goodRevision.getD range.goodRevision)
        (r.badRevision.getD range.badRevision) := by
    unfold identifyCulprit
    rw [sound]
  have judged : v = report.testVerdict range good bad := verdict sound
  rw [judged]
  refine ⟨testsRuling (TryJobReport.fault?_eq_none.mp sound) range good bad, ?_⟩
  intro step test asked alone report' sound' agree o
  rw [verdict sound', ← agree.good, ← agree.bad,
    TryJobReport.lists_testVerdict _ _ _ _ asked alone,
    TryJobReport.lists_testVerdict _ _ _ _ asked alone, agree.ruledOrigin_eq]

namespace Reproduced

def range : TryJobRange := ⟨"r118", "r120", [], .ofList [("tests", ["Old", "New"])]⟩

def result (revision : String) (failures : List String) : RevisionResult :=
  ⟨revision, none, .ofList [("tests", ⟨statusPassed, failures, true⟩)]⟩

def report (before after : List String) : TryJobReport :=
  ⟨[result "r119" before, result "r120" ("New" :: after)], none, .empty, none, none, []⟩

theorem blamed_in_both :
    (report [] []).fault? = none ∧
      (identifyCulprit .test (report [] []) range).Lists "tests/Old" .flaky ∧
      (identifyCulprit .test (report ["Old"] ["Old"]) range).Lists "tests/Old" .undecided ∧
      (identifyCulprit .test (report ["Old"] ["Old"]) range).Lists "tests/New"
        (.culprit "r120") := by
  have sound : (report [] []).fault? = none := by decide
  have agree : (report [] []).AgreeOn "tests" "New" (report ["Old"] ["Old"]) := by
    refine ⟨rfl, rfl, rfl, .cons ⟨rfl, .some ⟨rfl, ?_⟩⟩ (.cons ⟨rfl, .some ⟨rfl, ?_⟩⟩ .nil)⟩
    · decide
    · decide
  refine ⟨sound, by decide, by decide, ?_⟩
  have alike := (identifyCulprit_test sound range).2 "tests" "New" (by decide) (by decide) _
    (by decide) agree (.culprit "r120")
  exact alike.mp (by decide)

end Reproduced

end CulpritFinding
