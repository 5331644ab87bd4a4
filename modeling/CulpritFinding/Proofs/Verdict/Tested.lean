import CulpritFinding.Proofs.Verdict.Compile
import CulpritFinding.Proofs.Verdict.Tests

namespace CulpritFinding

def TryJobReport.Tested (r : TryJobReport) (revision : String) : Prop :=
  revision ∈ r.results.map (·.revision)

instance (r : TryJobReport) (revision : String) : Decidable (r.Tested revision) :=
  inferInstanceAs (Decidable (revision ∈ r.results.map (·.revision)))

theorem Trial.firstTurn?_mem {trials : List Trial} {revision : String}
    (turn : firstTurn? trials = some revision) : revision ∈ trials.map (·.revision) := by
  fun_induction firstTurn? trials with
  | case1 t t' rest found =>
    cases turn
    exact List.mem_cons_of_mem _ List.mem_cons_self
  | case2 t t' rest missed ih => exact List.mem_cons_of_mem _ (ih turn)
  | case3 => cases turn

theorem Trial.origin_mem {trials : List Trial} {good bad revision : String}
    (culprit : origin trials good bad = .culprit revision) :
    revision ∈ trials.map (·.revision) := by
  unfold origin at culprit
  split at culprit
  · cases culprit
  · split at culprit
    · rename_i turn
      cases culprit
      exact firstTurn?_mem turn
    · cases culprit

namespace TryJobReport

variable {r : TryJobReport} {good bad revision : String}

theorem tested_of_compileTrials
    (culprit : Trial.origin r.compileTrials good bad = .culprit revision) :
    r.Tested revision := by
  have mem := Trial.origin_mem culprit
  unfold compileTrials at mem
  rwa [List.map_map] at mem

theorem tested_of_testOrigin {t : String × String}
    (culprit : r.testOrigin good bad t = .culprit revision) : r.Tested revision := by
  have mem := Trial.origin_mem culprit
  unfold testTrials at mem
  rwa [List.map_map] at mem

theorem Has.of_untested {culprit : String} (results : r.results ≠ [])
    (named : r.culprit = some culprit) (untested : ¬ r.Tested culprit) :
    r.Has (.untestedCulprit culprit) := by
  refine .untested named results fun result member same => untested ?_
  exact same ▸ List.mem_map_of_mem member

theorem TestFindings.get?_judgeAll_of_untested (untested : ¬ r.Tested revision)
    (f : TestFindings) (tests : List (String × String)) (name : String) :
    (judgeAll r good bad f tests).culprits.get? name = some revision ↔
      f.culprits.get? name = some revision := by
  induction tests generalizing f with
  | nil => rfl
  | cons t rest ih =>
    change (judgeAll r good bad (judge r good bad t.1 f t.2) rest).culprits.get? name = _ ↔ _
    rw [ih, get?_judge, Option.or_eq_some_iff]
    refine or_iff_left fun judged => ?_
    obtain ⟨-, culprit⟩ := judged
    split at culprit
    · cases origin : r.testOrigin good bad t with
      | culprit found =>
        rw [origin] at culprit
        cases culprit
        exact untested (tested_of_testOrigin origin)
      | flaky | undecided =>
        rw [origin] at culprit
        cases culprit
    · cases culprit

theorem TestFindings.get?_judgeAll_of_named {f : TestFindings} {name : String}
    (named : f.culprits.get? name = some revision) (tests : List (String × String)) :
    (judgeAll r good bad f tests).culprits.get? name = some revision := by
  induction tests generalizing f with
  | nil => exact named
  | cons t rest ih =>
    refine ih (f := judge r good bad t.1 f t.2) ?_
    rw [get?_judge, named]
    rfl

end TryJobReport

theorem Verdict.mem_culpritRevisions {v : Verdict} {revision : String} :
    revision ∈ v.culpritRevisions.toList ↔ ∃ failure, v.blamed? failure = some revision := by
  cases v with
  | found culprits doubtful =>
    simp only [culpritRevisions, blamed?, SortedSet.mem_ofList, SortedMap.get?_eq_some]
    constructor
    · intro listed
      obtain ⟨e, member, rfl⟩ := List.mem_map.mp listed
      exact ⟨e.1, member⟩
    · rintro ⟨failure, member⟩
      exact List.mem_map_of_mem (f := (·.2)) member
  | flaky | inconclusive => simp [culpritRevisions, blamed?, SortedSet.empty]

section

variable {report : TryJobReport} (range : TryJobRange)

theorem identifyCulprit_of_faulty (kind : FailureKind) (faulty : ¬ report.Sound) :
    ∃ fault, report.Has fault ∧
      identifyCulprit kind report range = .inconclusive fault.message := by
  unfold identifyCulprit
  cases found : report.fault? with
  | none => exact absurd (TryJobReport.fault?_eq_none.mp found) faulty
  | some fault => exact ⟨fault, TryJobReport.has_of_fault? found, rfl⟩

theorem blamed?_identifyCulprit_test (sound : report.Sound) (failure : String) :
    (identifyCulprit .test report range).blamed? failure =
      (report.testFindings range (report.goodRevision.getD range.goodRevision)
        (report.badRevision.getD range.badRevision)).culprits.get? failure := by
  unfold identifyCulprit
  rw [TryJobReport.fault?_eq_none.mpr sound]
  exact TryJobReport.blamed?_testVerdict ..

theorem tested_of_blamed_compile (results : report.results ≠ []) (sound : report.Sound)
    {failure revision : String}
    (blamed : (identifyCulprit .compile report range).blamed? failure = some revision) :
    report.Tested revision := by
  have only {culprit : String} (same : (Verdict.blaming culprit).blamed? failure = some revision) :
      culprit = revision := by
    have entry := SortedMap.mem_of_mem_ofList (SortedMap.get?_eq_some.mp same)
    exact (congrArg Prod.snd (List.mem_singleton.mp entry)).symm
  unfold identifyCulprit at blamed
  rw [TryJobReport.fault?_eq_none.mpr sound] at blamed
  cases named : report.culprit with
  | some culprit =>
    unfold TryJobReport.compileVerdict at blamed
    rw [named] at blamed
    obtain rfl := only blamed
    by_contra untested
    exact sound _ (.of_untested results named untested)
  | none =>
    dsimp only at blamed
    rw [TryJobReport.compileVerdict_of_unnamed named] at blamed
    cases origin : Trial.origin report.compileTrials
        (report.goodRevision.getD range.goodRevision)
        (report.badRevision.getD range.badRevision) with
    | culprit found =>
      rw [origin] at blamed
      exact only blamed ▸ TryJobReport.tested_of_compileTrials origin
    | flaky | undecided =>
      rw [origin] at blamed
      cases blamed

end

/-- A revision that was not tested is blamed only if the report names it as the culprit of a single
test: that culprit is not looked up among the results, as the one of the whole try job is. -/
theorem identifyCulprit_blames {report : TryJobReport} (results : report.results ≠ [])
    (kind : FailureKind) (range : TryJobRange) :
    let v := identifyCulprit kind report range
    (∀ revision, ¬ report.Tested revision → (revision ∈ v.culpritRevisions.toList ↔
        kind = .test ∧ report.Sound ∧
          ∃ failure, report.culprits.get? failure = some revision)) ∧
      (∀ culprit, report.culprit = some culprit → ¬ report.Tested culprit →
        report.Has (.untestedCulprit culprit) ∧
          ∃ fault, report.Has fault ∧ v = .inconclusive fault.message) ∧
      (∀ failure culprit, report.culprits.get? failure = some culprit → kind = .test →
        report.Sound → v.blamed? failure = some culprit) ∧
      ∀ named, ({ report with culprits := named }.Sound ↔ report.Sound) ∧
        (kind = .compile → identifyCulprit kind { report with culprits := named } range = v) := by
  intro v
  refine ⟨fun revision untested => ?_, fun culprit named untested => ?_, ?_, fun named => ⟨?_, ?_⟩⟩
  · rw [Verdict.mem_culpritRevisions]
    by_cases sound : report.Sound
    · cases kind with
      | compile =>
        simp only [reduceCtorEq, false_and, iff_false, not_exists]
        exact fun failure blamed =>
          untested (tested_of_blamed_compile range results sound blamed)
      | test =>
        simp only [true_and, sound, v, blamed?_identifyCulprit_test range sound,
          TryJobReport.testFindings_eq,
          TryJobReport.TestFindings.get?_judgeAll_of_untested untested]
    · obtain ⟨fault, -, inconclusive⟩ := identifyCulprit_of_faulty range kind sound
      simp [v, inconclusive, Verdict.blamed?, sound]
  · have has := TryJobReport.Has.of_untested results named untested
    exact ⟨has, identifyCulprit_of_faulty range kind fun sound => sound _ has⟩
  · rintro failure culprit named rfl sound
    rw [blamed?_identifyCulprit_test range sound, TryJobReport.testFindings_eq]
    exact TryJobReport.TestFindings.get?_judgeAll_of_named named _
  · rw [← TryJobReport.fault?_eq_none, ← TryJobReport.fault?_eq_none]
    exact Iff.rfl
  · rintro rfl
    rfl

namespace Unchecked

def range : TryJobRange := ⟨"r118", "r120", [], .ofList [("tests", ["Case"])]⟩

def result (revision : String) (failures : List String) : RevisionResult :=
  ⟨revision, none, .ofList [("tests", ⟨statusPassed, failures, true⟩)]⟩

def report (culprit : Option String) (culprits : SortedMap String String) : TryJobReport :=
  ⟨[result "r119" [], result "r120" ["Case"]], culprit, culprits, none, none, []⟩

def naming : TryJobReport := report none (.ofList [("tests/Case", "r999")])

theorem blamed_untested :
    naming.results ≠ [] ∧ ¬ naming.Tested "r999" ∧
      "r999" ∈ (identifyCulprit .test naming range).culpritRevisions.toList ∧
      identifyCulprit .test (report (some "r999") .empty) range =
        .inconclusive "inconsistent try-job result: culprit r999 was not tested" := by
  have results : naming.results ≠ [] := by decide
  have untested : ¬ naming.Tested "r999" := by decide
  have sound : naming.Sound := TryJobReport.fault?_eq_none.mp (by decide)
  have blames := (identifyCulprit_blames results .test range).1 "r999" untested
  exact ⟨results, untested, blames.mpr ⟨rfl, sound, "tests/Case", by decide⟩, by decide⟩

end Unchecked

end CulpritFinding
