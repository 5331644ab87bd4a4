import CulpritFinding.Verdict
import Mathlib.Data.List.Nodup
import Mathlib.Data.Nat.Find

namespace CulpritFinding

/-- How results speak about a failure: some show that it is gone, some that it is there, and others
say nothing about it. -/
structure Reading where
  passed : RevisionResult → Prop
  failed : RevisionResult → Prop

namespace Reading

def compile : Reading where
  passed r := r.status = some statusPassed
  failed r := r.status = some statusFailed

/-- A valid run of a step speaks about a test of it. -/
def test (step test : String) : Reading where
  passed r := ∃ o, r.steps.get? step = some o ∧ o.valid = true ∧ test ∉ o.failures
  failed r := ∃ o, r.steps.get? step = some o ∧ o.valid = true ∧ test ∈ o.failures

variable (reading : Reading) (results : List RevisionResult)

/-- The failure turns up between the result at a place and the next one. -/
def TurnsAt (i : Nat) : Prop :=
  (∃ r ∈ results[i]?, reading.passed r) ∧ ∃ r ∈ results[i + 1]?, reading.failed r

def FirstTurn (revision : String) : Prop :=
  ∃ i, reading.TurnsAt results i ∧ (∀ j < i, ¬ reading.TurnsAt results j) ∧
    ∃ r ∈ results[i + 1]?, r.revision = revision

/-- The failure is there at the good revision, or gone at the bad one. -/
def Unstable (good bad : String) : Prop :=
  (∃ r ∈ results, r.revision = good ∧ reading.failed r) ∨
    ∃ r ∈ results, r.revision = bad ∧ reading.passed r

/-- What the results between a good and a bad revision say about where a failure began. -/
inductive Judges (good bad : String) : Origin → Prop
  | flaky (unstable : reading.Unstable results good bad) : Judges good bad .flaky
  | culprit {revision : String} (stable : ¬ reading.Unstable results good bad)
      (first : reading.FirstTurn results revision) : Judges good bad (.culprit revision)
  | undecided (stable : ¬ reading.Unstable results good bad)
      (never : ∀ i, ¬ reading.TurnsAt results i) : Judges good bad .undecided

structure Tells (trial : RevisionResult → Trial) : Prop where
  revision : ∀ r ∈ results, (trial r).revision = r.revision
  passed : ∀ r ∈ results, (trial r).failed = some false ↔ reading.passed r
  failed : ∀ r ∈ results, (trial r).failed = some true ↔ reading.failed r

section

variable {reading results} {trial : RevisionResult → Trial} {good bad : String}

theorem turnsAt_succ {r : RevisionResult} {i : Nat} :
    reading.TurnsAt (r :: results) (i + 1) ↔ reading.TurnsAt results i := by
  simp [TurnsAt]

theorem turnsAt_zero {r r' : RevisionResult} :
    reading.TurnsAt (r :: r' :: results) 0 ↔ reading.passed r ∧ reading.failed r' := by
  simp [TurnsAt]

theorem FirstTurn.cons {r : RevisionResult} {revision : String}
    (first : reading.FirstTurn results revision) (before : ¬ reading.TurnsAt (r :: results) 0) :
    reading.FirstTurn (r :: results) revision := by
  obtain ⟨i, turns, earlier, named⟩ := first
  refine ⟨i + 1, turnsAt_succ.mpr turns, ?_, by simpa using named⟩
  intro j bound
  cases j with
  | zero => exact before
  | succ j =>
    rw [turnsAt_succ]
    exact earlier j (by omega)

theorem FirstTurn.unique {revision revision' : String}
    (first : reading.FirstTurn results revision) (first' : reading.FirstTurn results revision') :
    revision = revision' := by
  obtain ⟨i, turns, earlier, r, found, rfl⟩ := first
  obtain ⟨i', turns', earlier', r', found', rfl⟩ := first'
  have same : i = i' := by
    rcases Nat.lt_trichotomy i i' with before | same | after
    · exact absurd turns (earlier' i before)
    · exact same
    · exact absurd turns' (earlier i' after)
  subst same
  cases (Option.mem_def.mp found).symm.trans (Option.mem_def.mp found')
  rfl

theorem Judges.unique {o o' : Origin} (judges : reading.Judges results good bad o)
    (judges' : reading.Judges results good bad o') : o = o' := by
  cases judges with
  | flaky unstable =>
    cases judges' with
    | flaky => rfl
    | culprit stable | undecided stable => exact absurd unstable stable
  | culprit stable first =>
    cases judges' with
    | flaky unstable => exact absurd unstable stable
    | culprit _ first' => rw [first.unique first']
    | undecided _ never =>
      obtain ⟨i, turns, -⟩ := first
      exact absurd turns (never i)
  | undecided stable never =>
    cases judges' with
    | flaky unstable => exact absurd unstable stable
    | culprit _ first =>
      obtain ⟨i, turns, -⟩ := first
      exact absurd turns (never i)
    | undecided => rfl

theorem judges_flaky :
    reading.Judges results good bad .flaky ↔ reading.Unstable results good bad := by
  constructor
  · intro judges
    cases judges
    assumption
  · exact .flaky

theorem judges_culprit {revision : String} :
    reading.Judges results good bad (.culprit revision) ↔
      ¬ reading.Unstable results good bad ∧ reading.FirstTurn results revision := by
  constructor
  · intro judges
    cases judges with
    | culprit stable first => exact ⟨stable, first⟩
  · intro ⟨stable, first⟩
    exact .culprit stable first

theorem judges_undecided :
    reading.Judges results good bad .undecided ↔
      ¬ reading.Unstable results good bad ∧ ∀ i, ¬ reading.TurnsAt results i := by
  constructor
  · intro judges
    cases judges with
    | undecided stable never => exact ⟨stable, never⟩
  · intro ⟨stable, never⟩
    exact .undecided stable never

theorem exists_firstTurn (turns : ∃ i, reading.TurnsAt results i) :
    ∃ revision, reading.FirstTurn results revision := by
  classical
  obtain ⟨-, r, found, -⟩ := Nat.find_spec turns
  have earlier : ∀ j < Nat.find turns, ¬ reading.TurnsAt results j := fun _ => Nat.find_min turns
  exact ⟨r.revision, Nat.find turns, Nat.find_spec turns, earlier, r, found, rfl⟩

theorem Tells.tail {r : RevisionResult} (tells : reading.Tells (r :: results) trial) :
    reading.Tells results trial where
  revision r' member := tells.revision r' (List.mem_cons_of_mem _ member)
  passed r' member := tells.passed r' (List.mem_cons_of_mem _ member)
  failed r' member := tells.failed r' (List.mem_cons_of_mem _ member)

theorem Tells.firstTurn? (tells : reading.Tells results trial) :
    match Trial.firstTurn? (results.map trial) with
    | some revision => reading.FirstTurn results revision
    | none => ∀ i, ¬ reading.TurnsAt results i := by
  induction results with
  | nil => simp [Trial.firstTurn?, TurnsAt]
  | cons r rest ih =>
    cases rest with
    | nil => simp [Trial.firstTurn?, TurnsAt]
    | cons r' rest =>
      have here : r ∈ r :: r' :: rest := List.mem_cons_self
      have next : r' ∈ r :: r' :: rest := List.mem_cons_of_mem _ List.mem_cons_self
      have turn : (trial r).failed = some false ∧ (trial r').failed = some true ↔
          reading.TurnsAt (r :: r' :: rest) 0 := by
        rw [turnsAt_zero, tells.passed r here, tells.failed r' next]
      have later := ih tells.tail
      rw [List.map_cons] at later
      rw [List.map_cons, List.map_cons, Trial.firstTurn?]
      by_cases turns : reading.TurnsAt (r :: r' :: rest) 0
      · have found := turn.mpr turns
        simp only [found.1, found.2, decide_true, Bool.and_self, if_true]
        exact ⟨0, turns, by simp, r', rfl, (tells.revision r' next).symm⟩
      · have missed : ((trial r).failed = some false && (trial r').failed = some true) = false := by
          simpa using mt turn.mp turns
        rw [missed, if_neg Bool.false_ne_true]
        cases found : Trial.firstTurn? (trial r' :: rest.map trial) with
        | some revision =>
          rw [found] at later
          exact later.cons turns
        | none =>
          rw [found] at later
          intro i
          cases i with
          | zero => exact turns
          | succ i =>
            rw [turnsAt_succ]
            exact later i

theorem Tells.outcomeAt? (tells : reading.Tells results trial)
    (unique : (results.map (·.revision)).Nodup) {shown : Bool} {shows : RevisionResult → Prop}
    (means : ∀ r ∈ results, (trial r).failed = some shown ↔ shows r) (revision : String) :
    Trial.outcomeAt? (results.map trial) revision = some shown ↔
      ∃ r ∈ results, r.revision = revision ∧ shows r := by
  unfold Trial.outcomeAt?
  rw [Option.bind_eq_some_iff]
  constructor
  · rintro ⟨t, found, shown⟩
    obtain ⟨r, member, rfl⟩ := List.mem_map.mp (List.mem_of_find?_eq_some found)
    have named : (trial r).revision = revision := by simpa using List.find?_some found
    exact ⟨r, member, (tells.revision r member).symm.trans named, (means r member).mp shown⟩
  · rintro ⟨r, member, rfl, shown⟩
    cases found : (results.map trial).find? fun t => t.revision = r.revision with
    | none =>
      have absent := List.find?_eq_none.mp found _ (List.mem_map_of_mem member)
      simp [tells.revision r member] at absent
    | some t =>
      obtain ⟨r', member', rfl⟩ := List.mem_map.mp (List.mem_of_find?_eq_some found)
      have named : (trial r').revision = r.revision := by simpa using List.find?_some found
      rw [tells.revision r' member'] at named
      rw [List.inj_on_of_nodup_map unique member' member named]
      exact ⟨_, rfl, (means r member).mpr shown⟩

/-- The origin of a failure is what the results say about it, where each revision has one result. -/
theorem Tells.origin_eq_iff (tells : reading.Tells results trial)
    (unique : (results.map (·.revision)).Nodup) {o : Origin} :
    Trial.origin (results.map trial) good bad = o ↔ reading.Judges results good bad o := by
  have unstable : (Trial.outcomeAt? (results.map trial) good = some true ||
      Trial.outcomeAt? (results.map trial) bad = some false) = true ↔
        reading.Unstable results good bad := by
    rw [Bool.or_eq_true, decide_eq_true_eq, decide_eq_true_eq,
      tells.outcomeAt? unique tells.failed, tells.outcomeAt? unique tells.passed]
    rfl
  have judges : reading.Judges results good bad (Trial.origin (results.map trial) good bad) := by
    have first := tells.firstTurn?
    unfold Trial.origin
    by_cases flaky : reading.Unstable results good bad
    · rw [if_pos (unstable.mpr flaky)]
      exact .flaky flaky
    · rw [if_neg (mt unstable.mp flaky)]
      cases found : Trial.firstTurn? (results.map trial) with
      | some revision =>
        rw [found] at first
        exact .culprit flaky first
      | none =>
        rw [found] at first
        exact .undecided flaky first
  constructor
  · rintro rfl
    exact judges
  · intro judges'
    exact judges.unique judges'

end

end Reading

end CulpritFinding
