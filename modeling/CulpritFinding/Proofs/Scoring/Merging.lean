import CulpritFinding.Scoring
import CulpritFinding.Proofs.Scoring.Ranking
import Mathlib.Data.List.Induction

namespace CulpritFinding

structure Suspicion where
  suspect : Suspect
  failure : FailureRef

namespace Suspect

def commit (s : Suspect) : String × String × Option Int :=
  (s.repoName, s.revision, s.commitPosition)

@[simp] theorem addFailure_commit (s : Suspect) (failure : FailureRef) :
    (s.addFailure failure).commit = s.commit := by
  unfold addFailure
  split <;> rfl

@[simp] theorem addFailure_score (s : Suspect) (failure : FailureRef) :
    (s.addFailure failure).score = s.score := by
  unfold addFailure
  split <;> rfl

@[simp] theorem addFailure_hints (s : Suspect) (failure : FailureRef) :
    (s.addFailure failure).hints = s.hints := by
  unfold addFailure
  split <;> rfl

def raisedTo (entry candidate : Suspect) : Suspect :=
  if entry.score < candidate.score then
    { entry with score := candidate.score, hints := candidate.hints }
  else entry

@[simp] theorem raisedTo_commit (s c : Suspect) : (s.raisedTo c).commit = s.commit := by
  unfold raisedTo
  split <;> rfl

@[simp] theorem raisedTo_failures (s c : Suspect) : (s.raisedTo c).failures = s.failures := by
  unfold raisedTo
  split <;> rfl

theorem raisedTo_cases (s c : Suspect) :
    ((s.raisedTo c).score = s.score ∧ (s.raisedTo c).hints = s.hints) ∨
      ((s.raisedTo c).score = c.score ∧ (s.raisedTo c).hints = c.hints) := by
  unfold raisedTo
  split
  · exact .inr ⟨rfl, rfl⟩
  · exact .inl ⟨rfl, rfl⟩

theorem score_raisedTo (s c : Suspect) : (s.raisedTo c).score = max s.score c.score := by
  unfold raisedTo
  split
  · dsimp only
    omega
  · omega

def suspectedOf (entry : Suspect) (g : Suspicion) : Suspect :=
  (entry.raisedTo g.suspect).addFailure g.failure

/-- The entry of a commit among some suspicions. -/
structure Merges (given : List Suspicion) (revision : String) (s : Suspect) : Prop where
  named : s.revision = revision
  origin : ∃ g ∈ given, g.suspect.commit = s.commit
  best : ∃ g ∈ given, g.suspect.revision = revision ∧ g.suspect.score = s.score ∧
    g.suspect.hints = s.hints
  most : ∀ g ∈ given, g.suspect.revision = revision → g.suspect.score ≤ s.score
  failures : ∀ f, f ∈ s.failures ↔ ∃ g ∈ given, g.suspect.revision = revision ∧ g.failure = f
  ascending : s.failures.Pairwise fun f g => SortKey.before f g = true

variable {given : List Suspicion} {g : Suspicion} {revision : String} {s : Suspect}

theorem Merges.other (merges : s.Merges given revision) (other : g.suspect.revision ≠ revision) :
    s.Merges (given ++ [g]) revision := by
  have old : ∀ {g'}, g' ∈ given ++ [g] → g'.suspect.revision = revision → g' ∈ given := by
    intro g' member own
    rcases List.mem_append.mp member with known | last
    · exact known
    · rw [List.mem_singleton] at last
      subst last
      exact absurd own other
  constructor
  · exact merges.named
  · obtain ⟨g', member, same⟩ := merges.origin
    exact ⟨g', List.mem_append_left _ member, same⟩
  · obtain ⟨g', member, best⟩ := merges.best
    exact ⟨g', List.mem_append_left _ member, best⟩
  · intro g' member own
    exact merges.most g' (old member own) own
  · intro f
    rw [merges.failures f]
    constructor
    · rintro ⟨g', member, own, failure⟩
      exact ⟨g', List.mem_append_left _ member, own, failure⟩
    · rintro ⟨g', member, own, failure⟩
      exact ⟨g', old member own, own, failure⟩
  · exact merges.ascending

/-- A new entry is made of the first suspicion itself, so that `origin` and `best` look at the new
suspicion too, and the rest only at the former ones. -/
theorem merges_suspectedOf (own : s.revision = revision) (own' : g.suspect.revision = revision)
    (origin : ∃ g' ∈ given ++ [g], g'.suspect.commit = s.commit)
    (best : ∃ g' ∈ given ++ [g], g'.suspect.revision = revision ∧ g'.suspect.score = s.score ∧
      g'.suspect.hints = s.hints)
    (most : ∀ g' ∈ given, g'.suspect.revision = revision → g'.suspect.score ≤ s.score)
    (failures : ∀ f, f ∈ s.failures ↔
      ∃ g' ∈ given, g'.suspect.revision = revision ∧ g'.failure = f)
    (ascending : s.failures.Pairwise fun f g => SortKey.before f g = true) :
    (s.suspectedOf g).Merges (given ++ [g]) revision := by
  have last : g ∈ given ++ [g] := List.mem_append_right _ List.mem_cons_self
  have listed : ∀ f, (f ∈ s.failures ∨ f = g.failure) ↔
      ∃ g' ∈ given ++ [g], g'.suspect.revision = revision ∧ g'.failure = f := by
    intro f
    rw [failures f]
    constructor
    · rintro (⟨g', member, own, failure⟩ | rfl)
      · exact ⟨g', List.mem_append_left _ member, own, failure⟩
      · exact ⟨g, last, own', rfl⟩
    · rintro ⟨g', member, own, failure⟩
      rcases List.mem_append.mp member with known | new
      · exact .inl ⟨g', known, own, failure⟩
      · rw [List.mem_singleton] at new
        subst new
        exact .inr failure.symm
  have same : (s.suspectedOf g).commit = s.commit := by simp [suspectedOf]
  unfold suspectedOf at same ⊢
  constructor
  · exact (congrArg (·.2.1) same).trans own
  · rw [same]
    exact origin
  · simp only [addFailure_score, addFailure_hints]
    rcases s.raisedTo_cases g.suspect with ⟨score, hints⟩ | ⟨score, hints⟩
    · rw [score, hints]
      exact best
    · exact ⟨g, last, own', score.symm, hints.symm⟩
  · intro g' member own
    rw [addFailure_score, score_raisedTo]
    rcases List.mem_append.mp member with known | new
    · have := most g' known own
      omega
    · rw [List.mem_singleton] at new
      rw [new]
      omega
  · intro f
    rw [mem_addFailure, raisedTo_failures]
    exact listed f
  · apply addFailure_ascending
    rw [raisedTo_failures]
    exact ascending

theorem Merges.add (merges : s.Merges given revision) (own : g.suspect.revision = revision) :
    (s.suspectedOf g).Merges (given ++ [g]) revision := by
  obtain ⟨g', member, same⟩ := merges.origin
  obtain ⟨g'', member', best⟩ := merges.best
  exact merges_suspectedOf merges.named own ⟨g', List.mem_append_left _ member, same⟩
    ⟨g'', List.mem_append_left _ member', best⟩ merges.most merges.failures merges.ascending

theorem merges_first (unnamed : ∀ g' ∈ given, g'.suspect.revision ≠ g.suspect.revision) :
    (({ g.suspect with failures := [] } : Suspect).suspectedOf g).Merges (given ++ [g])
      g.suspect.revision := by
  have last : g ∈ given ++ [g] := List.mem_append_right _ List.mem_cons_self
  apply merges_suspectedOf
  · rfl
  · rfl
  · exact ⟨g, last, rfl⟩
  · exact ⟨g, last, rfl, rfl, rfl⟩
  · intro g' member own
    exact absurd own (unnamed g' member)
  · intro f
    constructor
    · intro listed
      cases listed
    · rintro ⟨g', member, own, -⟩
      exact absurd own (unnamed g' member)
  · exact List.Pairwise.nil

end Suspect

namespace SuspectMap

def ofSuspicions (given : List Suspicion) : SuspectMap :=
  given.foldl (fun m g => m.blame g.suspect g.failure) .empty

theorem get?_blame (m : SuspectMap) (g : Suspicion) (revision : String) :
    (m.blame g.suspect g.failure).get? revision =
      if g.suspect.revision = revision then
        some (((m.get? revision).getD { g.suspect with failures := [] }).suspectedOf g)
      else m.get? revision :=
  SortedMap.get?_upsert ..

theorem get?_ofSuspicions (given : List Suspicion) (revision : String) :
    (∃ s, (ofSuspicions given).get? revision = some s ∧ s.Merges given revision) ∨
      (ofSuspicions given).get? revision = none ∧
        ∀ g ∈ given, g.suspect.revision ≠ revision := by
  -- Suspicions come in at the end of the list, and the entry so far is that of those before.
  induction given using List.reverseRecOn with
  | nil => exact .inr ⟨SortedMap.get?_empty _, fun g member => absurd member List.not_mem_nil⟩
  | append_singleton given g ih =>
    have step : ofSuspicions (given ++ [g]) = (ofSuspicions given).blame g.suspect g.failure := by
      unfold ofSuspicions
      rw [List.foldl_append]
      rfl
    rw [step, get?_blame]
    by_cases own : g.suspect.revision = revision
    · rw [if_pos own]
      rcases ih with ⟨s, known, merges⟩ | ⟨unknown, unnamed⟩
      · rw [known]
        exact .inl ⟨_, rfl, merges.add own⟩
      · rw [unknown]
        subst own
        exact .inl ⟨_, rfl, Suspect.merges_first unnamed⟩
    · rw [if_neg own]
      rcases ih with ⟨s, known, merges⟩ | ⟨unknown, unnamed⟩
      · exact .inl ⟨s, known, merges.other own⟩
      · refine .inr ⟨unknown, ?_⟩
        intro g' member
        rcases List.mem_append.mp member with old | new
        · exact unnamed g' old
        · rw [List.mem_singleton] at new
          rw [new]
          exact own

theorem mem_ranked {m : SuspectMap} {s : Suspect} :
    s ∈ m.ranked ↔ ∃ revision, m.get? revision = some s := by
  unfold ranked
  rw [(Suspect.rank_perm _).mem_iff]
  unfold SortedMap.values
  simp only [List.mem_map, Prod.exists, exists_eq_right, SortedMap.get?_eq_some]

variable {given : List Suspicion}

theorem merges_of_mem_ranked {s : Suspect} (member : s ∈ (ofSuspicions given).ranked) :
    s.Merges given s.revision := by
  obtain ⟨revision, known⟩ := mem_ranked.mp member
  rcases get?_ofSuspicions given revision with ⟨s', known', merges⟩ | ⟨unknown, -⟩
  · cases known.symm.trans known'
    rw [merges.named]
    exact merges
  · cases known.symm.trans unknown

theorem exists_mem_ranked {g : Suspicion} (member : g ∈ given) :
    ∃ s ∈ (ofSuspicions given).ranked, s.revision = g.suspect.revision := by
  rcases get?_ofSuspicions given g.suspect.revision with ⟨s, known, merges⟩ | ⟨-, unnamed⟩
  · exact ⟨s, mem_ranked.mpr ⟨_, known⟩, merges.named⟩
  · exact absurd rfl (unnamed g member)

theorem names_ranked {revision : String} {failure : FailureRef} :
    (∃ s ∈ (ofSuspicions given).ranked, s.revision = revision ∧ failure ∈ s.failures) ↔
      ∃ g ∈ given, g.suspect.revision = revision ∧ g.failure = failure := by
  constructor
  · rintro ⟨s, member, rfl, named⟩
    exact ((merges_of_mem_ranked member).failures failure).mp named
  · rintro ⟨g, member, rfl, rfl⟩
    obtain ⟨s, listed, same⟩ := exists_mem_ranked member
    refine ⟨s, listed, same, ?_⟩
    exact ((merges_of_mem_ranked listed).failures _).mpr ⟨g, member, same.symm, rfl⟩

theorem once_values (given : List Suspicion) :
    ((ofSuspicions given).values.map (·.revision)).Nodup := by
  have keyed : (ofSuspicions given).values.map (·.revision) = (ofSuspicions given).keys := by
    unfold SortedMap.values SortedMap.keys
    rw [List.map_map]
    apply List.map_congr_left
    intro e member
    have known : (ofSuspicions given).get? e.1 = some e.2 := SortedMap.get?_eq_some.mpr member
    rcases get?_ofSuspicions given e.1 with ⟨s, known', merges⟩ | ⟨unknown, -⟩
    · cases known.symm.trans known'
      exact merges.named
    · cases known.symm.trans unknown
  rw [keyed]
  exact SortedMap.nodup_keys _

theorem once_ranked (given : List Suspicion) :
    ((ofSuspicions given).ranked.map (·.revision)).Nodup :=
  ((Suspect.rank_perm _).map _).nodup_iff.mpr (once_values given)

theorem ranked_outranks (given : List Suspicion) :
    (ofSuspicions given).ranked.Pairwise Suspect.Outranks :=
  Suspect.rank_outranks (once_values given)

end SuspectMap

end CulpritFinding
