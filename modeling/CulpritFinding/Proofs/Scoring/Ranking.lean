import CulpritFinding.Suspect

namespace CulpritFinding

theorem SortKey.before_cases {κ : Type} [SortKey κ] (a b : κ) :
    before a b = true ∨ a = b ∨ before b a = true := by
  cases first : before a b with
  | true => exact .inl rfl
  | false =>
    cases second : before b a with
    | true => exact .inr (.inr rfl)
    | false => exact .inr (.inl (eq_of_not_before first second))

section Sorting

variable {α : Type} {lt : α → α → Bool}
  (asymm : ∀ a b, lt a b = true → lt b a = false)
  (trans : ∀ a b c, lt b a = false → lt c b = false → lt c a = false)

include asymm trans

theorem pairwise_mergeSort_of_apart {l : List α}
    (apart : l.Pairwise fun a b => lt a b = true ∨ lt b a = true) :
    (l.mergeSort fun a b => !lt b a).Pairwise fun a b => lt a b = true := by
  have sorted : (l.mergeSort fun a b => !lt b a).Pairwise fun a b => (!lt b a) = true := by
    apply List.pairwise_mergeSort
    · intro a b c first second
      rw [Bool.not_eq_true'] at first second ⊢
      exact trans a b c first second
    · intro a b
      cases first : lt b a with
      | false => rfl
      | true => simp [asymm b a first]
  have apart' : (l.mergeSort fun a b => !lt b a).Pairwise fun a b =>
      lt a b = true ∨ lt b a = true :=
    ((List.mergeSort_perm l _).pairwise_iff Or.symm).mpr apart
  refine (sorted.and apart').imp ?_
  rintro a b ⟨ordered, before | after⟩
  · exact before
  · simp [after] at ordered

theorem mergeSort_eq_of_perm {l l' : List α} (perm : l'.Perm l)
    (sorted : l.Pairwise fun a b => lt a b = true) : (l'.mergeSort fun a b => !lt b a) = l := by
  have apart : l'.Pairwise fun a b => lt a b = true ∨ lt b a = true :=
    (perm.pairwise_iff Or.symm).mpr (sorted.imp .inl)
  apply List.Perm.eq_of_pairwise _ (pairwise_mergeSort_of_apart asymm trans apart) sorted
    ((List.mergeSort_perm l' _).trans perm)
  intro a b _ _ before after
  rw [asymm a b before] at after
  cases after

end Sorting

theorem SortKey.not_before_trans {κ : Type} [SortKey κ] (a b c : κ) (first : before b a = false)
    (second : before c b = false) : before c a = false := by
  rw [← Bool.not_eq_true] at first second ⊢
  intro last
  rcases before_cases a b with before | rfl | after
  · exact second (before_trans last before)
  · exact second last
  · exact first after

theorem Suspect.addFailure_ascending {s : Suspect}
    (ascending : s.failures.Pairwise fun f g => SortKey.before f g = true) (failure : FailureRef) :
    (s.addFailure failure).failures.Pairwise fun f g => SortKey.before f g = true := by
  unfold addFailure
  split
  · exact ascending
  · rename_i new
    apply pairwise_mergeSort_of_apart (fun _ _ => SortKey.not_before_of_before)
      SortKey.not_before_trans
    rw [List.pairwise_append]
    refine ⟨ascending.imp .inl, List.pairwise_singleton _ _, ?_⟩
    intro f known g last
    rw [List.mem_singleton] at last
    subst last
    rcases SortKey.before_cases f g with before | rfl | after
    · exact .inl before
    · exact absurd known new
    · exact .inr after

theorem Suspect.mem_addFailure {s : Suspect} {failure f : FailureRef} :
    f ∈ (s.addFailure failure).failures ↔ f ∈ s.failures ∨ f = failure := by
  unfold addFailure
  split
  · rename_i known
    constructor
    · exact .inl
    · rintro (old | rfl)
      · exact old
      · exact known
  · simp [List.mem_mergeSort]

theorem isGreater_trans {p q r : Option Int} (first : isGreater p q = true)
    (second : isGreater q r = true) : isGreater p r = true := by
  cases p with
  | none => cases first
  | some a =>
    cases q with
    | none => cases second
    | some b =>
      cases r with
      | none => rfl
      | some c =>
        simp only [isGreater, decide_eq_true_eq] at *
        omega

theorem isGreater_cases (p q : Option Int) :
    isGreater p q = true ∨ p = q ∨ isGreater q p = true := by
  cases p <;> cases q <;> simp only [isGreater, decide_eq_true_eq, Option.some.injEq]
  · simp
  · simp
  · simp
  · omega

theorem isGreater_irrefl (p : Option Int) : isGreater p p = false := by
  cases p <;> simp [isGreater]

namespace Suspect

/-- A suspect stands before another by a higher score, then by a newer commit, one of unknown
position being the oldest, then by its revision. -/
def Outranks (s t : Suspect) : Prop :=
  t.score < s.score ∨ s.score = t.score ∧
    (isGreater s.commitPosition t.commitPosition = true ∨
      s.commitPosition = t.commitPosition ∧ SortKey.before s.revision t.revision = true)

variable {s t u : Suspect}

theorem ranksBefore_iff : s.ranksBefore t = true ↔ s.Outranks t := by
  unfold ranksBefore Outranks
  by_cases score : s.score = t.score
  · by_cases position : s.commitPosition = t.commitPosition
    · simp [score, position, isGreater_irrefl]
    · simp [score, position]
  · simp [score]

instance (s t : Suspect) : Decidable (s.Outranks t) := decidable_of_iff _ ranksBefore_iff

theorem Outranks.trans (first : s.Outranks t) (second : t.Outranks u) : s.Outranks u := by
  rcases first with higher | ⟨score, newer | ⟨position, before⟩⟩
  · rcases second with higher' | ⟨score', -⟩
    · exact .inl (by omega)
    · exact .inl (by omega)
  · rcases second with higher' | ⟨score', newer' | ⟨position', -⟩⟩
    · exact .inl (by omega)
    · exact .inr ⟨by omega, .inl (isGreater_trans newer newer')⟩
    · exact .inr ⟨by omega, .inl (position' ▸ newer)⟩
  · rcases second with higher' | ⟨score', newer' | ⟨position', before'⟩⟩
    · exact .inl (by omega)
    · exact .inr ⟨by omega, .inl (position ▸ newer')⟩
    · exact .inr ⟨by omega, .inr ⟨position.trans position', SortKey.before_trans before before'⟩⟩

theorem outranks_cases (s t : Suspect) :
    s.Outranks t ∨ t.Outranks s ∨
      s.score = t.score ∧ s.commitPosition = t.commitPosition ∧ s.revision = t.revision := by
  unfold Outranks
  have scores : t.score < s.score ∨ s.score = t.score ∨ s.score < t.score := by omega
  rcases scores with higher | score | lower
  · exact .inl (.inl higher)
  · rcases isGreater_cases s.commitPosition t.commitPosition with newer | position | older
    · exact .inl (.inr ⟨score, .inl newer⟩)
    · rcases SortKey.before_cases s.revision t.revision with before | revision | after
      · exact .inl (.inr ⟨score, .inr ⟨position, before⟩⟩)
      · exact .inr (.inr ⟨score, position, revision⟩)
      · exact .inr (.inl (.inr ⟨score.symm, .inr ⟨position.symm, after⟩⟩))
    · exact .inr (.inl (.inr ⟨score.symm, .inl older⟩))
  · exact .inr (.inl (.inl lower))

theorem Outranks.asymm (first : s.Outranks t) : ¬ t.Outranks s := by
  intro second
  rcases first.trans second with higher | ⟨-, newer | ⟨-, before⟩⟩
  · omega
  · rw [isGreater_irrefl] at newer
    cases newer
  · rw [SortKey.before_irrefl] at before
    cases before

theorem ranksBefore_asymm (s t : Suspect) (before : s.ranksBefore t = true) :
    t.ranksBefore s = false := by
  rw [← Bool.not_eq_true, ranksBefore_iff]
  exact (ranksBefore_iff.mp before).asymm

theorem not_ranksBefore_trans (s t u : Suspect) (first : t.ranksBefore s = false)
    (second : u.ranksBefore t = false) : u.ranksBefore s = false := by
  rw [← Bool.not_eq_true, ranksBefore_iff] at first second ⊢
  intro last
  rcases outranks_cases s t with before | after | ⟨score, position, revision⟩
  · exact second (last.trans before)
  · exact first after
  · unfold Outranks at last second
    rw [score, position, revision] at last
    exact second last

theorem rank_perm (suspects : List Suspect) : (rank suspects).Perm suspects :=
  List.mergeSort_perm _ _

theorem rank_outranks {suspects : List Suspect} (once : (suspects.map (·.revision)).Nodup) :
    (rank suspects).Pairwise Outranks := by
  have apart : suspects.Pairwise fun s t => s.ranksBefore t = true ∨ t.ranksBefore s = true := by
    refine (List.pairwise_map.mp once).imp ?_
    intro s t distinct
    rw [ranksBefore_iff, ranksBefore_iff]
    rcases outranks_cases s t with before | after | ⟨-, -, same⟩
    · exact .inl before
    · exact .inr after
    · exact absurd same distinct
  have sorted := pairwise_mergeSort_of_apart ranksBefore_asymm not_ranksBefore_trans apart
  exact sorted.imp ranksBefore_iff.mp

theorem rank_eq_of_perm {found suspects : List Suspect} (perm : found.Perm suspects)
    (ranked : suspects.Pairwise Outranks) : rank found = suspects :=
  mergeSort_eq_of_perm ranksBefore_asymm not_ranksBefore_trans perm
    (ranked.imp ranksBefore_iff.mpr)

end Suspect

end CulpritFinding
