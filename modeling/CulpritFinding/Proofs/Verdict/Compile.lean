import CulpritFinding.Proofs.Verdict.Faults
import CulpritFinding.Proofs.Verdict.Readings

namespace CulpritFinding

def Verdict.blaming (revision : String) : Verdict :=
  .found (.ofList [(FailureKind.compile.text, revision)]) .empty

def Verdict.flakyCompile : Verdict := .flaky (.ofList [FailureKind.compile.text])

def Verdict.undecidedCompile : Verdict := .inconclusive "no failing revision follows a passing one"

/-- What the verdict on a compile has to be, by what the report shows. -/
structure CompileRuling (r : TryJobReport) (good bad : String) (v : Verdict) : Prop where
  faulty : ¬ r.Sound → ∃ fault, r.Has fault ∧ v = .inconclusive fault.message
  named : r.Sound → ∀ culprit, r.culprit = some culprit → v = .blaming culprit
  flaky : r.Sound → r.culprit = none →
    (v = .flakyCompile ↔ Reading.compile.Unstable r.results good bad)
  culprit : r.Sound → r.culprit = none → ∀ revision, (v = .blaming revision ↔
    ¬ Reading.compile.Unstable r.results good bad ∧ Reading.compile.FirstTurn r.results revision)
  undecided : r.Sound → r.culprit = none → (v = .undecidedCompile ↔
    ¬ Reading.compile.Unstable r.results good bad ∧ ∀ i, ¬ Reading.compile.TurnsAt r.results i)

theorem Reading.tells_compile {r : TryJobReport} (sound : r.Sound) :
    compile.Tells r.results fun result =>
      ⟨result.revision, result.status.map (· == statusFailed)⟩ := by
  have known : ∀ result ∈ r.results, result.status = none ∨ result.status = some statusPassed ∨
      result.status = some statusFailed := by
    intro result member
    cases given : result.status with
    | none => exact .inl rfl
    | some status =>
      right
      have listed : status ∈ result.statuses := by simp [RevisionResult.statuses, given]
      simpa using sound.status member listed
  constructor
  · intro result member
    rfl
  all_goals
    intro result member
    rcases known result member with none | passed | failed
    · simp [compile, none]
    · simp [compile, passed, statusPassed, statusFailed]
    · simp [compile, failed, statusPassed, statusFailed]

def Origin.onCompile : Origin → Verdict
  | culprit revision => .blaming revision
  | flaky => .flakyCompile
  | undecided => .undecidedCompile

theorem Origin.onCompile_inj {o o' : Origin} : o.onCompile = o'.onCompile ↔ o = o' := by
  constructor
  · intro same
    cases o <;> cases o' <;>
      simp_all [onCompile, Verdict.blaming, Verdict.flakyCompile, Verdict.undecidedCompile,
        SortedMap.ofList, SortedMap.insert, SortedMap.insertEntry]
  · rintro rfl
    rfl

theorem TryJobReport.compileVerdict_of_unnamed {r : TryJobReport} (unnamed : r.culprit = none)
    (good bad : String) :
    r.compileVerdict good bad = (Trial.origin r.compileTrials good bad).onCompile := by
  unfold compileVerdict
  rw [unnamed]
  cases Trial.origin r.compileTrials good bad <;> rfl

theorem compileRuling (report : TryJobReport) (range : TryJobRange) :
    CompileRuling report (report.goodRevision.getD range.goodRevision)
      (report.badRevision.getD range.badRevision) (identifyCulprit .compile report range) := by
  generalize hv : identifyCulprit .compile report range = v
  unfold identifyCulprit at hv
  by_cases sound : report.Sound
  · rw [TryJobReport.fault?_eq_none.mpr sound] at hv
    dsimp only at hv
    have decided (unnamed : report.culprit = none) {o : Origin} : v = o.onCompile ↔
        Reading.compile.Judges report.results (report.goodRevision.getD range.goodRevision)
          (report.badRevision.getD range.badRevision) o := by
      rw [← hv, TryJobReport.compileVerdict_of_unnamed unnamed, Origin.onCompile_inj]
      exact (Reading.tells_compile sound).origin_eq_iff sound.unique
    constructor
    · exact fun faulty => absurd sound faulty
    · intro _ culprit named
      rw [← hv]
      unfold TryJobReport.compileVerdict
      rw [named]
      rfl
    · exact fun _ unnamed => (decided unnamed).trans Reading.judges_flaky
    · exact fun _ unnamed revision => (decided unnamed).trans Reading.judges_culprit
    · exact fun _ unnamed => (decided unnamed).trans Reading.judges_undecided
  · cases found : report.fault? with
    | none => exact absurd (TryJobReport.fault?_eq_none.mp found) sound
    | some fault =>
      rw [found] at hv
      constructor
      · exact fun _ => ⟨fault, TryJobReport.has_of_fault? found, hv.symm⟩
      all_goals
        intro sound'
        exact absurd sound' sound

/-- The verdict on a compile says exactly what the report shows. A culprit that is found without
being named failed directly after a revision that passed; it is not the good revision, and the
failure does not turn up before it. -/
theorem identifyCulprit_compile (report : TryJobReport) (range : TryJobRange) :
    let good := report.goodRevision.getD range.goodRevision
    let bad := report.badRevision.getD range.badRevision
    let v := identifyCulprit .compile report range
    CompileRuling report good bad v ∧
      ∀ culprits doubtful, report.culprit = none → v = .found culprits doubtful →
        ∃ i passed failed, report.results[i]? = some passed ∧
          report.results[i + 1]? = some failed ∧ passed.status = some statusPassed ∧
          failed.status = some statusFailed ∧ failed.revision ≠ good ∧
          v = .blaming failed.revision ∧
          ∀ j < i, ¬ Reading.compile.TurnsAt report.results j := by
  intro good bad v
  have ruling : CompileRuling report good bad v := compileRuling report range
  refine ⟨ruling, ?_⟩
  intro culprits doubtful unnamed found
  have sound : report.Sound := by
    by_contra faulty
    obtain ⟨fault, -, inconclusive⟩ := ruling.faulty faulty
    cases found.symm.trans inconclusive
  have stable : ¬ Reading.compile.Unstable report.results good bad := by
    intro unstable
    cases found.symm.trans ((ruling.flaky sound unnamed).mpr unstable)
  have turned : ∃ i, Reading.compile.TurnsAt report.results i := by
    by_contra never
    rw [not_exists] at never
    cases found.symm.trans ((ruling.undecided sound unnamed).mpr ⟨stable, never⟩)
  obtain ⟨revision, first⟩ := Reading.exists_firstTurn turned
  have blamed := (ruling.culprit sound unnamed revision).mpr ⟨stable, first⟩
  obtain ⟨i, ⟨⟨passed, before, passes⟩, failed, after, fails⟩, earlier, named, same, rfl⟩ := first
  cases (Option.mem_def.mp after).symm.trans (Option.mem_def.mp same)
  refine ⟨i, passed, failed, before, after, passes, fails, ?_, blamed, earlier⟩
  intro isGood
  exact stable (.inl ⟨failed, List.mem_of_getElem? after, isGood, fails⟩)

end CulpritFinding
