import CulpritFinding.Verdict
import Mathlib.Data.List.Nodup

namespace CulpritFinding

namespace TryJobReport

/-- A report is at fault if it has two results for a revision or a status that is unknown, or if it
names a culprit that it did not test. -/
inductive Has (r : TryJobReport) : ReportFault → Prop
  | repeated {revision : String} (twice : 1 < (r.results.map (·.revision)).count revision) :
      Has r (.repeatedRevision revision)
  | unknown {result : RevisionResult} {status : String} (member : result ∈ r.results)
      (given : status ∈ result.statuses) (notPassed : status ≠ statusPassed)
      (notFailed : status ≠ statusFailed) : Has r (.unknownStatus status result.revision)
  | untested {culprit : String} (named : r.culprit = some culprit) (tested : r.results ≠ [])
      (absent : ∀ result ∈ r.results, result.revision ≠ culprit) : Has r (.untestedCulprit culprit)

def Sound (r : TryJobReport) : Prop := ∀ fault, ¬ r.Has fault

theorem Sound.unique {r : TryJobReport} (sound : r.Sound) : (r.results.map (·.revision)).Nodup := by
  rw [List.nodup_iff_count_le_one]
  intro revision
  by_contra twice
  exact sound _ (.repeated (Nat.lt_of_not_le twice))

theorem Sound.status {r : TryJobReport} (sound : r.Sound) {result : RevisionResult}
    (member : result ∈ r.results) {status : String} (given : status ∈ result.statuses) :
    status = statusPassed ∨ status = statusFailed := by
  by_contra unknown
  rw [not_or] at unknown
  exact sound _ (.unknown member given unknown.1 unknown.2)

theorem find?_unknown_eq_none {statuses : List String} :
    (statuses.find? fun s => s ≠ statusPassed && s ≠ statusFailed) = none ↔
      ∀ status ∈ statuses, status = statusPassed ∨ status = statusFailed := by
  rw [List.find?_eq_none]
  apply forall₂_congr
  intro status _
  by_cases passed : status = statusPassed <;> simp [passed]

theorem resultFault?_eq_none {results : List RevisionResult} {seen : List String} :
    resultFault? seen results = none ↔
      (results.map (·.revision)).Nodup ∧ (∀ result ∈ results, result.revision ∉ seen) ∧
        ∀ result ∈ results, ∀ status ∈ result.statuses,
          status = statusPassed ∨ status = statusFailed := by
  induction results generalizing seen with
  | nil => simp [resultFault?]
  | cons r rest ih =>
    rw [List.forall_mem_cons, List.forall_mem_cons, ← find?_unknown_eq_none, List.map_cons,
      List.nodup_cons]
    unfold resultFault?
    by_cases known : r.revision ∈ seen
    · simp [known]
    · rw [if_neg known]
      cases r.statuses.find? fun s => s ≠ statusPassed && s ≠ statusFailed with
      | some status => simp
      | none =>
        have apart : (∀ r' ∈ rest, r'.revision ∉ r.revision :: seen) ↔
            r.revision ∉ rest.map (·.revision) ∧ ∀ r' ∈ rest, r'.revision ∉ seen := by
          simp only [List.mem_cons, not_or, List.mem_map, not_exists, not_and]
          exact forall₂_and
        dsimp only
        rw [ih, apart]
        tauto

theorem of_resultFault? {results : List RevisionResult} {seen : List String} {fault : ReportFault}
    (found : resultFault? seen results = some fault) :
    (∃ revision, 1 < (seen ++ results.map (·.revision)).count revision ∧
        fault = .repeatedRevision revision) ∨
      ∃ result ∈ results, ∃ status ∈ result.statuses, status ≠ statusPassed ∧
        status ≠ statusFailed ∧ fault = .unknownStatus status result.revision := by
  induction results generalizing seen with
  | nil => cases found
  | cons r rest ih =>
    unfold resultFault? at found
    split at found
    · rename_i known
      cases found
      left
      refine ⟨r.revision, ?_, rfl⟩
      have before := List.count_pos_iff.mpr known
      rw [List.count_append, List.map_cons, List.count_cons_self]
      omega
    · split at found
      · rename_i status given
        cases found
        have unknown := List.find?_some given
        simp only [Bool.and_eq_true, decide_eq_true_eq] at unknown
        exact .inr ⟨r, List.mem_cons_self, status, List.mem_of_find?_eq_some given, unknown.1,
          unknown.2, rfl⟩
      · rcases ih found with ⟨revision, twice, same⟩ | ⟨result, member, unknown⟩
        · left
          refine ⟨revision, ?_, same⟩
          have moved : (r.revision :: seen ++ rest.map (·.revision)).Perm
              (seen ++ (r :: rest).map (·.revision)) := List.perm_middle.symm
          rwa [← moved.count_eq]
        · exact .inr ⟨result, List.mem_cons_of_mem _ member, unknown⟩

theorem culpritFault?_eq_some {r : TryJobReport} {fault : ReportFault} :
    r.culpritFault? = some fault ↔ ∃ culprit, r.culprit = some culprit ∧ r.results ≠ [] ∧
      (∀ result ∈ r.results, result.revision ≠ culprit) ∧ fault = .untestedCulprit culprit := by
  unfold culpritFault? resultAt?
  cases r.culprit with
  | none => simp
  | some culprit =>
    simp only [Option.bind_eq_bind, Option.bind_some, Option.some.injEq, exists_eq_left']
    split
    · rename_i untested
      simp only [Bool.and_eq_true, Bool.not_eq_true', List.isEmpty_eq_false_iff,
        Option.isNone_iff_eq_none, List.find?_eq_none, decide_eq_true_eq] at untested
      constructor
      · intro same
        exact ⟨untested.1, untested.2, (Option.some.inj same).symm⟩
      · rintro ⟨-, -, rfl⟩
        rfl
    · rename_i tested
      simp only [Bool.and_eq_true, Bool.not_eq_true', List.isEmpty_eq_false_iff,
        Option.isNone_iff_eq_none, List.find?_eq_none, decide_eq_true_eq, not_and] at tested
      simp only [reduceCtorEq, false_iff]
      rintro ⟨something, absent, -⟩
      exact tested something absent

theorem fault?_eq_or (r : TryJobReport) :
    r.fault? = (resultFault? [] r.results).or r.culpritFault? := by
  unfold fault?
  cases resultFault? [] r.results <;> rfl

theorem has_of_fault? {r : TryJobReport} {fault : ReportFault} (found : r.fault? = some fault) :
    r.Has fault := by
  rw [fault?_eq_or] at found
  rcases Option.or_eq_some_iff.mp found with result | ⟨-, culprit⟩
  · rcases of_resultFault? result with ⟨revision, twice, rfl⟩ |
      ⟨result, member, status, given, notPassed, notFailed, rfl⟩
    · exact .repeated twice
    · exact .unknown member given notPassed notFailed
  · obtain ⟨culprit, named, tested, absent, rfl⟩ := culpritFault?_eq_some.mp culprit
    exact .untested named tested absent

theorem fault?_eq_none {r : TryJobReport} : r.fault? = none ↔ r.Sound := by
  constructor
  · intro sound fault has
    rw [fault?_eq_or] at sound
    obtain ⟨results, culprit⟩ := Option.or_eq_none_iff.mp sound
    obtain ⟨unique, -, statuses⟩ := resultFault?_eq_none.mp results
    cases has with
    | @repeated revision twice =>
      have := List.nodup_iff_count_le_one.mp unique revision
      omega
    | unknown member given notPassed notFailed =>
      rcases statuses _ member _ given with passed | failed
      · exact notPassed passed
      · exact notFailed failed
    | untested named tested absent =>
      have fault := culpritFault?_eq_some.mpr ⟨_, named, tested, absent, rfl⟩
      cases culprit.symm.trans fault
  · intro sound
    cases found : r.fault? with
    | none => rfl
    | some fault => exact absurd (has_of_fault? found) (sound fault)

end TryJobReport

end CulpritFinding
