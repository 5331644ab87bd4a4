import CulpritFinding.Proofs.Flake.Aggregation
import Mathlib.Data.Finset.Card
import Mathlib.Tactic.Tauto

namespace CulpritFinding

namespace Instant

variable {t a b : Instant}

theorem eq_latest_iff : t = a.latest b ↔
    (t = a ∨ t = b) ∧ t.isBefore a = false ∧ t.isBefore b = false := by
  obtain ⟨second, nanos⟩ := t
  obtain ⟨second', nanos'⟩ := a
  obtain ⟨second'', nanos''⟩ := b
  simp only [← Bool.not_eq_true, latest, isBefore_iff]
  split <;> simp only [mk.injEq] <;> omega

theorem isBefore_latest_eq_false :
    t.isBefore (a.latest b) = false ↔ t.isBefore a = false ∧ t.isBefore b = false := by
  obtain ⟨second, nanos⟩ := t
  obtain ⟨second', nanos'⟩ := a
  obtain ⟨second'', nanos''⟩ := b
  simp only [← Bool.not_eq_true, latest, isBefore_iff]
  split <;> dsimp only <;> omega

end Instant

theorem foldl_laterOf_eq_some {ts : List Instant} {known : Option Instant} {t : Instant} :
    ts.foldl laterOf known = some t ↔
      t ∈ known.toList ++ ts ∧ ∀ t' ∈ known.toList ++ ts, t.isBefore t' = false := by
  induction ts generalizing known with
  | nil =>
    cases known with
    | none => simp
    | some first =>
      simp only [List.foldl_nil, Option.some.injEq, Option.toList_some, List.append_nil,
        List.mem_singleton, forall_eq]
      constructor
      · rintro rfl
        exact ⟨rfl, by simp [Instant.isBefore]⟩
      · exact fun latest => latest.1.symm
  | cons next rest ih =>
    rw [List.foldl_cons, ih]
    cases known with
    | none => simp [laterOf]
    | some first =>
      simp only [laterOf, Option.map_some, Option.getD_some, Option.toList_some,
        List.singleton_append, List.forall_mem_cons, Instant.isBefore_latest_eq_false]
      simp only [List.mem_cons, Instant.eq_latest_iff]
      tauto

/-- What the count of a type has to be, by its occurrences within the window. -/
structure FlakeTypeCount.Counts (c : FlakeTypeCount) (counted : List FlakeOccurrence) : Prop where
  occurrences : c.occurrences = counted.length
  idle : counted = [] → c.impactedChanges = 0
  unchanged : counted ≠ [] → (∀ o ∈ counted, o.changeId = noChange) → c.impactedChanges = -1
  changed : (∃ o ∈ counted, o.changeId ≠ noChange) →
    c.impactedChanges = ((counted.map (·.changeId)).toFinset.erase noChange).card

namespace FlakeAggregate

variable {occurrences : List FlakeOccurrence} {stop t : Instant}

theorem lastBefore_eq_some : lastBefore occurrences stop = some t ↔
    (∃ o ∈ occurrences, o.timeHappened = t) ∧ t.isBefore stop = true ∧
      ∀ o ∈ occurrences, o.timeHappened.isBefore stop = true →
        t.isBefore o.timeHappened = false := by
  unfold lastBefore
  rw [foldl_laterOf_eq_some]
  simp only [Option.toList_none, List.nil_append, List.mem_filter, List.mem_map, and_imp,
    forall_exists_index, forall_apply_eq_imp_iff₂, and_assoc]

theorem mem_changesOf {change : Int} : change ∈ (changesOf occurrences).toList ↔
    change ≠ noChange ∧ ∃ o ∈ occurrences, o.changeId = change := by
  unfold changesOf FlakeOccurrence.hasChange
  simp only [SortedSet.mem_ofList, List.mem_map, List.mem_filter, decide_eq_true_eq]
  constructor
  · rintro ⟨o, ⟨member, change⟩, rfl⟩
    exact ⟨change, o, member, rfl⟩
  · rintro ⟨change, o, member, rfl⟩
    exact ⟨o, ⟨member, change⟩, rfl⟩

theorem size_changesOf (occurrences : List FlakeOccurrence) : (changesOf occurrences).size =
    ((occurrences.map (·.changeId)).toFinset.erase noChange).card := by
  have distinct : (changesOf occurrences).toList.Nodup :=
    (changesOf occurrences).ascending.imp fun before => SortKey.ne_of_before before
  have same : (occurrences.map (·.changeId)).toFinset.erase noChange =
      (changesOf occurrences).toList.toFinset := by
    ext change
    simp [mem_changesOf]
  rw [same, List.toFinset_card_of_nodup distinct]
  rfl

theorem changesOf_isEmpty :
    (changesOf occurrences).isEmpty = true ↔ ∀ o ∈ occurrences, o.changeId = noChange := by
  rw [SortedSet.isEmpty_iff]
  simp only [mem_changesOf, not_and, not_exists]
  constructor
  · intro nothing o member
    by_contra change
    exact nothing _ change o member rfl
  · rintro unchanged change some o member rfl
    exact some (unchanged o member)

theorem countOf_counts (counted : List FlakeOccurrence) : (countOf counted).Counts counted := by
  refine ⟨rfl, ?_, ?_, ?_⟩
  · rintro rfl
    rfl
  · intro happened unchanged
    simp [countOf, happened, changesOf_isEmpty.mpr unchanged]
  · rintro ⟨o, member, change⟩
    have happened : counted ≠ [] := List.ne_nil_of_mem member
    have changed : ¬ (changesOf counted).isEmpty = true := by
      rw [changesOf_isEmpty]
      exact fun unchanged => change (unchanged o member)
    simp [countOf, happened, changed, size_changesOf]

variable (occurrences) {now : Instant} {window : Span} (weights : FlakeWeights)

/-- An aggregate counts precisely the occurrences within its window, each type for itself, and their
order plays no part. There is none where the score does not add up. -/
theorem counts_exactly (inTime : (now.minus window).isInRange = true) :
    ∃ a : FlakeAggregate,
      (∀ permuted, occurrences.Perm permuted →
        ofOccurrences? permuted now window weights = if a.addsUp weights then some a else none) ∧
      (∀ t, (a.counts.get? t).isSome = true ↔ ∃ o ∈ occurrences, o.flakeType = t) ∧
      (∀ t c, a.counts.get? t = some c → c.Counts
        (occurrences.filter fun o => o.flakeType = t && o.counts (now.minus window) now)) ∧
      a.score = (FlakeType.all.map (a.contribution weights)).sum ∧
      (∀ t, a.lastOccurred = some t ↔
        (∃ o ∈ occurrences, o.timeHappened = t) ∧ t.isBefore now = true ∧
          ∀ o ∈ occurrences, o.timeHappened.isBefore now = true →
            t.isBefore o.timeHappened = false) ∧
      a.windowStart = now.minus window ∧ a.windowEnd = now := by
  have counts := get?_counts occurrences now window weights
  refine ⟨ofOccurrences occurrences now window weights, ?_, ?_, ?_, score_eq_sum .., ?_, rfl, rfl⟩
  · intro permuted perm
    rw [ofOccurrences_perm perm]
    exact ofOccurrences?_eq _ _ _ _ inTime
  · intro t
    rw [counts, ← mem_typesOf]
    split <;> simp [*]
  · intro t c found
    rw [counts] at found
    split at found
    · cases found
      exact countOf_counts _
    · cases found
  · intro t
    exact lastBefore_eq_some

end FlakeAggregate

namespace Edges

def noon : Instant := ⟨1700000000, 0⟩

def hour : Span := ⟨3600 * nanosPerSecond⟩

/-- A flake at the start of the window, at its end, within it without a change, and before it. -/
def occurrences : List FlakeOccurrence :=
  [⟨.cqHiddenFlake, 1, "tests", "Case", ⟨1699996400, 0⟩, 7⟩,
    ⟨.cqHiddenFlake, 2, "tests", "Case", noon, 8⟩,
    ⟨.ciFailedStep, 3, "tests", "Case", ⟨1699999999, 999999999⟩, noChange⟩,
    ⟨.retryWithPatch, 4, "tests", "Case", ⟨1699996399, 999999999⟩, 9⟩]

theorem counted_at_edges :
    (noon.minus hour).isInRange = true ∧
      (∃ a, FlakeAggregate.ofOccurrences? occurrences noon hour .standard = some a ∧
        a.counts.toList = [(.retryWithPatch, ⟨0, 0⟩), (.cqHiddenFlake, ⟨1, 1⟩),
          (.ciFailedStep, ⟨1, -1⟩)] ∧
        a.score = 2 ∧ a.lastOccurred = some ⟨1699999999, 999999999⟩ ∧
        FlakeAggregate.ofOccurrences? occurrences.reverse noon hour .standard = some a) ∧
      FlakeAggregate.ofOccurrences? occurrences noon hour
        (.ofList [(.cqHiddenFlake, 9223372036854775807), (.ciFailedStep, 1)]) = none := by
  have inTime : (noon.minus hour).isInRange = true := by decide
  obtain ⟨a, aggregated, -⟩ := FlakeAggregate.counts_exactly occurrences .standard inTime
  have fits : (FlakeAggregate.ofOccurrences? occurrences noon hour .standard).isSome = true := by
    decide +kernel
  have found := aggregated _ (.refl _)
  have reversed := aggregated _ occurrences.reverse_perm.symm
  rw [found] at fits
  split at fits
  · rename_i addsUp
    rw [if_pos addsUp] at found reversed
    have counted : (FlakeAggregate.ofOccurrences? occurrences noon hour .standard).map
        (fun a => (a.counts.toList, a.score, a.lastOccurred)) =
          some ([(.retryWithPatch, ⟨0, 0⟩), (.cqHiddenFlake, ⟨1, 1⟩), (.ciFailedStep, ⟨1, -1⟩)],
            2, some ⟨1699999999, 999999999⟩) := by decide +kernel
    rw [found, Option.map_some, Option.some_inj, Prod.mk.injEq, Prod.mk.injEq] at counted
    obtain ⟨counts, score, last⟩ := counted
    exact ⟨inTime, ⟨a, found, counts, score, last, reversed⟩, by decide +kernel⟩
  · cases fits

end Edges

end CulpritFinding
