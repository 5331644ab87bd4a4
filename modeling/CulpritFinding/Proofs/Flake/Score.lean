import CulpritFinding.Proofs.Flake.Tally
import Mathlib.Algebra.BigOperators.Group.List.Lemmas
import Mathlib.Algebra.Ring.Int.Defs

namespace CulpritFinding

theorem int64?_eq_some {n m : Int} : int64? n = some m ↔ m = n ∧ fitsInt64 n = true := by
  unfold int64?
  split
  · rename_i fits
    exact ⟨fun same => ⟨(Option.some.inj same).symm, fits⟩, fun same => congrArg some same.1.symm⟩
  · rename_i excess
    exact ⟨nofun, fun same => absurd same.2 excess⟩

theorem foldlM_int64?_eq_some {α : Type} {f : α → Int} {xs : List α} {start n : Int} :
    xs.foldlM (fun sum x => (int64? (f x)).bind fun n => int64? (sum + n)) start = some n ↔
      n = start + (xs.map f).sum ∧ (∀ x ∈ xs, fitsInt64 (f x) = true) ∧
        ∀ ys, ys ≠ [] → ys <+: xs → fitsInt64 (start + (ys.map f).sum) = true := by
  induction xs generalizing start with
  | nil =>
    simp only [List.foldlM_nil, List.map_nil, List.sum_nil, Int.add_zero, List.prefix_nil]
    constructor
    · intro same
      exact ⟨(Option.some.inj same).symm, List.forall_mem_nil _,
        fun ys some none => absurd none some⟩
    · exact fun sums => congrArg some sums.1.symm
  | cons x rest ih =>
    simp only [List.foldlM_cons, Option.bind_eq_bind, Option.bind_eq_some_iff, int64?_eq_some, ih,
      List.map_cons, List.sum_cons, List.forall_mem_cons, List.prefix_cons_iff]
    constructor
    · rintro ⟨_, ⟨_, ⟨rfl, one⟩, rfl, first⟩, rfl, others, later⟩
      refine ⟨Int.add_assoc .., ⟨one, others⟩, ?_⟩
      rintro ys some (rfl | ⟨zs, rfl, front⟩)
      · exact absurd rfl some
      · rw [List.map_cons, List.sum_cons, ← Int.add_assoc]
        by_cases last : zs = []
        · simpa [last] using first
        · exact later zs last front
    · rintro ⟨rfl, ⟨one, others⟩, sums⟩
      have first : fitsInt64 (start + f x) = true := by
        simpa using sums [x] (List.cons_ne_nil _ _) (.inr ⟨[], rfl, List.nil_prefix⟩)
      refine ⟨start + f x, ⟨f x, ⟨rfl, one⟩, rfl, first⟩, (Int.add_assoc ..).symm, others, ?_⟩
      intro zs _ front
      have sum := sums (x :: zs) (List.cons_ne_nil _ _) (.inr ⟨zs, rfl, front⟩)
      rwa [List.map_cons, List.sum_cons, ← Int.add_assoc] at sum

def FlakeTypeCount.score (c : FlakeTypeCount) (weight : Int) : Int :=
  (if c.impactedChanges < 0 then c.occurrences else c.impactedChanges) * weight

namespace FlakeAggregate

/-- The aggregate of the occurrences of one flake, whether or not its score fits. -/
def ofOccurrences (occurrences : List FlakeOccurrence) (now : Instant) (window : Span)
    (weights : FlakeWeights) : FlakeAggregate where
  counts := countsOf occurrences (now.minus window) now
  score := ((countsOf occurrences (now.minus window) now).toList.map fun e =>
    e.2.score (weights.weight e.1)).sum
  windowStart := now.minus window
  windowEnd := now
  lastOccurred := lastBefore occurrences now

/-- What a type adds to the score: by its changes, or by its occurrences where it has none. -/
def contribution (a : FlakeAggregate) (weights : FlakeWeights) (t : FlakeType) : Int :=
  (weights.get? t).getD 0 *
    if a.impactedChanges t = -1 then a.occurrences t else a.impactedChanges t

/-- Whether everything fits that is computed on the way to the score: what each type adds, and what
is known when it was added. -/
def addsUp (a : FlakeAggregate) (weights : FlakeWeights) : Bool :=
  FlakeType.all.all (fun t => fitsInt64 (a.contribution weights t)) &&
    FlakeType.all.inits.all fun types =>
      fitsInt64 (types.map (a.contribution weights)).sum

theorem score_countOf (counted : List FlakeOccurrence) (weight : Int) :
    (countOf counted).score weight =
      weight * if (countOf counted).impactedChanges = -1 then (countOf counted).occurrences
        else (countOf counted).impactedChanges := by
  have below : (countOf counted).impactedChanges < 0 ↔ (countOf counted).impactedChanges = -1 := by
    unfold countOf
    dsimp only
    split
    · decide
    · split
      · decide
      · omega
  unfold FlakeTypeCount.score
  simp only [below]
  exact Int.mul_comm ..

variable (occurrences : List FlakeOccurrence) (now : Instant) (window : Span)
  (weights : FlakeWeights)

theorem get?_counts (t : FlakeType) :
    (ofOccurrences occurrences now window weights).counts.get? t =
      if t ∈ typesOf occurrences then
        some (countOf (inWindow occurrences t (now.minus window) now))
      else none :=
  get?_countsOf ..

theorem contribution_of_occurred {t : FlakeType} (occurred : t ∈ typesOf occurrences) :
    (ofOccurrences occurrences now window weights).contribution weights t =
      (countOf (inWindow occurrences t (now.minus window) now)).score (weights.weight t) := by
  rw [score_countOf]
  unfold contribution impactedChanges FlakeAggregate.occurrences
  rw [get?_counts, if_pos occurred]
  rfl

theorem contribution_of_absent {t : FlakeType} (absent : t ∉ typesOf occurrences) :
    (ofOccurrences occurrences now window weights).contribution weights t = 0 := by
  unfold contribution impactedChanges FlakeAggregate.occurrences
  rw [get?_counts, if_neg absent]
  simp

theorem sum_contribution_filter (types : List FlakeType) :
    ((types.filter (· ∈ typesOf occurrences)).map
      ((ofOccurrences occurrences now window weights).contribution weights)).sum =
      (types.map ((ofOccurrences occurrences now window weights).contribution weights)).sum := by
  have others : ((types.filter fun t => ¬ t ∈ typesOf occurrences).map
      ((ofOccurrences occurrences now window weights).contribution weights)).sum = 0 := by
    refine List.sum_eq_zero fun n member => ?_
    obtain ⟨t, other, rfl⟩ := List.mem_map.mp member
    exact contribution_of_absent _ _ _ _ (by simpa using (List.mem_filter.mp other).2)
  rw [← List.sum_map_filter_add_sum_map_filter_not (· ∈ typesOf occurrences) _ types, others,
    Int.add_zero]

theorem typesOf_eq_filter :
    typesOf occurrences = FlakeType.all.filter (· ∈ typesOf occurrences) := by
  refine (List.filter_congr fun t known => ?_).symm
  rw [Bool.eq_iff_iff, decide_eq_true_eq]
  exact List.mem_filter.trans (and_iff_right known)

theorem score_eq_sum : (ofOccurrences occurrences now window weights).score =
    (FlakeType.all.map
      ((ofOccurrences occurrences now window weights).contribution weights)).sum := by
  rw [← sum_contribution_filter, ← typesOf_eq_filter,
    List.map_congr_left fun t => contribution_of_occurred occurrences now window weights]
  exact congrArg List.sum (List.map_map ..)

theorem addsUp_iff {a : FlakeAggregate} : a.addsUp weights = true ↔
    (∀ t ∈ FlakeType.all, fitsInt64 (a.contribution weights t) = true) ∧
      ∀ types, types <+: FlakeType.all →
        fitsInt64 (types.map (a.contribution weights)).sum = true := by
  unfold addsUp
  rw [Bool.and_eq_true, List.all_eq_true, List.all_eq_true]
  simp only [List.mem_inits]

theorem score?_countsOf {n : Int} :
    let a := ofOccurrences occurrences now window weights
    score? weights a.counts = some n ↔ n = a.score ∧ a.addsUp weights = true := by
  intro a
  have occurred : ∀ types : List FlakeType, (∀ t ∈ types, t ∈ typesOf occurrences) →
      types.map (fun t => (countOf (inWindow occurrences t (now.minus window) now)).score
        (weights.weight t)) = types.map (a.contribution weights) :=
    fun types occurred => List.map_congr_left fun t member =>
      (contribution_of_occurred _ _ _ _ (occurred t member)).symm
  have added : score? weights a.counts = (typesOf occurrences).foldlM (fun sum t =>
      (int64? ((countOf (inWindow occurrences t (now.minus window) now)).score
        (weights.weight t))).bind fun n => int64? (sum + n)) 0 := List.foldlM_map ..
  have total : ((typesOf occurrences).map (a.contribution weights)).sum = a.score := by
    rw [score_eq_sum, ← sum_contribution_filter _ _ _ _ FlakeType.all, ← typesOf_eq_filter]
  rw [added, foldlM_int64?_eq_some, Int.zero_add, occurred _ fun _ => id, total, addsUp_iff]
  refine and_congr_right fun _ => and_congr ⟨?_, ?_⟩ ⟨?_, ?_⟩
  · intro fits t _
    by_cases member : t ∈ typesOf occurrences
    · rw [contribution_of_occurred _ _ _ _ member]
      exact fits t member
    · rw [contribution_of_absent _ _ _ _ member]
      rfl
  · intro fits t member
    rw [← contribution_of_occurred _ _ _ _ member]
    exact fits t (List.mem_of_mem_filter member)
  · intro sums types front
    rw [← sum_contribution_filter]
    have kept := front.filter (· ∈ typesOf occurrences)
    rw [← typesOf_eq_filter] at kept
    by_cases none : types.filter (· ∈ typesOf occurrences) = []
    · rw [none]
      rfl
    · have sum := sums _ none kept
      rwa [Int.zero_add, occurred _ fun t member => kept.subset member] at sum
  · intro sums types _ front
    rw [Int.zero_add, occurred _ fun t member => front.subset member]
    rw [typesOf_eq_filter, List.prefix_filter_iff] at front
    obtain ⟨longer, front, rfl⟩ := front
    rw [sum_contribution_filter]
    exact sums longer front

theorem ofOccurrences?_eq (inTime : (now.minus window).isInRange = true) :
    let a := ofOccurrences occurrences now window weights
    ofOccurrences? occurrences now window weights =
      if a.addsUp weights then some a else none := by
  intro a
  have sums := FlakeTally.sums_ofOccurrences (now.minus window) now occurrences
  have score := @score?_countsOf occurrences now window weights
  unfold ofOccurrences?
  rw [if_pos inTime]
  dsimp only
  rw [sums.counts, sums.lastOccurred]
  change (score? weights a.counts).bind _ = _
  split
  · rename_i addsUp
    rw [score.mpr ⟨rfl, addsUp⟩]
    rfl
  · rename_i excess
    rw [Option.eq_none_iff_forall_ne_some.mpr fun n found => excess (score.mp found).2]
    rfl

end FlakeAggregate

end CulpritFinding
