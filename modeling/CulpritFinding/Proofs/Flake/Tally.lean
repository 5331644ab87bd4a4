import CulpritFinding.Flake.Aggregation
import Mathlib.Data.List.Induction

namespace CulpritFinding

/-- Whether an occurrence counts: it lies in the window, which begins at `start` and ends before
`stop`. -/
def FlakeOccurrence.counts (o : FlakeOccurrence) (start stop : Instant) : Bool :=
  !o.timeHappened.isBefore start && o.timeHappened.isBefore stop

namespace FlakeAggregate

def inWindow (occurrences : List FlakeOccurrence) (t : FlakeType) (start stop : Instant) :
    List FlakeOccurrence :=
  occurrences.filter fun o => o.flakeType = t && o.counts start stop

def changesOf (occurrences : List FlakeOccurrence) : SortedSet Int :=
  .ofList ((occurrences.filter (·.hasChange)).map (·.changeId))

def countOf (occurrences : List FlakeOccurrence) : FlakeTypeCount where
  occurrences := occurrences.length
  impactedChanges :=
    if occurrences.isEmpty then 0
    else if (changesOf occurrences).isEmpty then -1
    else (changesOf occurrences).size

def typesOf (occurrences : List FlakeOccurrence) : List FlakeType :=
  FlakeType.all.filter fun t => occurrences.any fun o => o.flakeType = t

def lastBefore (occurrences : List FlakeOccurrence) (stop : Instant) : Option Instant :=
  ((occurrences.map (·.timeHappened)).filter (·.isBefore stop)).foldl laterOf none

theorem ascending_typesOf (occurrences : List FlakeOccurrence) :
    (typesOf occurrences).Pairwise fun t t' => SortKey.before t t' = true :=
  List.Pairwise.filter _ (by decide)

theorem mem_typesOf {occurrences : List FlakeOccurrence} {t : FlakeType} :
    t ∈ typesOf occurrences ↔ ∃ o ∈ occurrences, o.flakeType = t := by
  have known : t ∈ FlakeType.all := by cases t <;> decide
  simp [typesOf, known]

theorem inWindow_of_not_mem_typesOf {occurrences : List FlakeOccurrence} {t : FlakeType}
    (never : t ∉ typesOf occurrences) (start stop : Instant) :
    inWindow occurrences t start stop = [] := by
  refine List.filter_eq_nil_iff.mpr fun o member counted => never (mem_typesOf.mpr ?_)
  simp only [Bool.and_eq_true, decide_eq_true_eq] at counted
  exact ⟨o, member, counted.1⟩

def countsOf (occurrences : List FlakeOccurrence) (start stop : Instant) :
    SortedMap FlakeType FlakeTypeCount where
  toList := (typesOf occurrences).map fun t => (t, countOf (inWindow occurrences t start stop))
  ascending := List.pairwise_map.mpr (ascending_typesOf occurrences)

theorem get?_countsOf (occurrences : List FlakeOccurrence) (start stop : Instant) (t : FlakeType) :
    (countsOf occurrences start stop).get? t =
      if t ∈ typesOf occurrences then some (countOf (inWindow occurrences t start stop))
      else none := by
  refine Option.ext fun c => ?_
  rw [SortedMap.get?_eq_some]
  by_cases occurred : t ∈ typesOf occurrences <;> simp [countsOf, occurred, eq_comm]

section Append

variable (seen : List FlakeOccurrence) (o : FlakeOccurrence) (t : FlakeType)
  (start stop : Instant)

theorem inWindow_append : inWindow (seen ++ [o]) t start stop =
    inWindow seen t start stop ++ if o.flakeType = t ∧ o.counts start stop then [o] else [] := by
  unfold inWindow
  rw [List.filter_append]
  congr 1
  by_cases counted : o.flakeType = t ∧ o.counts start stop = true <;> simp_all

theorem mem_typesOf_append : t ∈ typesOf (seen ++ [o]) ↔ o.flakeType = t ∨ t ∈ typesOf seen := by
  simp only [mem_typesOf, List.mem_append, List.mem_singleton]
  constructor
  · rintro ⟨o', member | rfl, same⟩
    · exact .inr ⟨o', member, same⟩
    · exact .inl same
  · rintro (same | ⟨o', member, same⟩)
    · exact ⟨o, .inr rfl, same⟩
    · exact ⟨o', .inl member, same⟩

theorem lastBefore_append : lastBefore (seen ++ [o]) stop =
    if o.timeHappened.isBefore stop then some (((lastBefore seen stop).map
      (·.latest o.timeHappened)).getD o.timeHappened) else lastBefore seen stop := by
  unfold lastBefore
  rw [List.map_append, List.filter_append, List.foldl_append]
  by_cases past : o.timeHappened.isBefore stop = true <;> simp [past, laterOf]

theorem changesOf_append : changesOf (seen ++ [o]) =
    if o.hasChange then (changesOf seen).insert o.changeId else changesOf seen := by
  unfold changesOf
  rw [List.filter_append, List.map_append]
  by_cases change : o.hasChange = true
  · simp only [change, List.filter_cons_of_pos, List.filter_nil, List.map_singleton, if_true]
    exact List.foldl_append ..
  · simp [change]

end Append

end FlakeAggregate

namespace FlakeTally

open FlakeAggregate

section Add

variable (t : FlakeTally) (start stop : Instant) (o : FlakeOccurrence) (type : FlakeType)

theorem occurrences_add : (t.add start stop o).occurrences.get? type =
    if o.flakeType = type then
      some ((t.occurrences.get? type).getD 0 + if o.counts start stop then 1 else 0)
    else t.occurrences.get? type := by
  unfold add see count FlakeOccurrence.counts
  by_cases past : o.timeHappened.isBefore stop = true <;>
    by_cases early : o.timeHappened.isBefore start = true <;>
    by_cases same : o.flakeType = type <;>
    simp [past, early, same, SortedMap.get?_upsert]

theorem changes_add : (t.add start stop o).changes.get? type =
    if o.flakeType = type ∧ o.counts start stop then
      some (if o.hasChange then ((t.changes.get? type).getD .empty).insert o.changeId
        else (t.changes.get? type).getD .empty)
    else t.changes.get? type := by
  unfold add see count FlakeOccurrence.counts
  by_cases past : o.timeHappened.isBefore stop = true <;>
    by_cases early : o.timeHappened.isBefore start = true <;>
    by_cases same : o.flakeType = type <;>
    simp [past, early, same, SortedMap.get?_upsert]

theorem lastOccurred_add : (t.add start stop o).lastOccurred =
    if o.timeHappened.isBefore stop then laterOf t.lastOccurred o.timeHappened
    else t.lastOccurred := by
  unfold add see count
  by_cases past : o.timeHappened.isBefore stop = true <;>
    by_cases early : o.timeHappened.isBefore start = true <;> simp [past, early]

end Add

/-- A tally says what the occurrences that were looked at come to. -/
structure Sums (t : FlakeTally) (start stop : Instant) (seen : List FlakeOccurrence) : Prop where
  occurrences : ∀ type, t.occurrences.get? type =
    if type ∈ typesOf seen then some ((inWindow seen type start stop).length : Int) else none
  changes : ∀ type, t.changes.get? type =
    if inWindow seen type start stop = [] then none
    else some (changesOf (inWindow seen type start stop))
  lastOccurred : t.lastOccurred = lastBefore seen stop

variable {t : FlakeTally} {start stop : Instant} {seen : List FlakeOccurrence}

theorem Sums.occurrences_getD (sums : t.Sums start stop seen) (type : FlakeType) :
    (t.occurrences.get? type).getD 0 = ((inWindow seen type start stop).length : Int) := by
  rw [sums.occurrences]
  split
  · rfl
  · rename_i never
    rw [inWindow_of_not_mem_typesOf never]
    rfl

theorem Sums.changes_getD (sums : t.Sums start stop seen) (type : FlakeType) :
    (t.changes.get? type).getD .empty = changesOf (inWindow seen type start stop) := by
  rw [sums.changes]
  split
  · rename_i nothing
    rw [nothing]
    rfl
  · rfl

theorem Sums.add (sums : t.Sums start stop seen) (o : FlakeOccurrence) :
    (t.add start stop o).Sums start stop (seen ++ [o]) := by
  constructor
  · intro type
    rw [occurrences_add, sums.occurrences_getD, inWindow_append]
    by_cases same : o.flakeType = type
    · by_cases counted : o.counts start stop = true <;>
        simp [mem_typesOf_append, same, counted]
    · simp [mem_typesOf_append, same, sums.occurrences]
  · intro type
    rw [changes_add, sums.changes_getD, inWindow_append]
    by_cases counted : o.flakeType = type ∧ o.counts start stop = true
    · simp [counted, changesOf_append]
    · simp [counted, sums.changes]
  · rw [lastOccurred_add, lastBefore_append, sums.lastOccurred]
    rfl

theorem sums_ofOccurrences (start stop : Instant) (occurrences : List FlakeOccurrence) :
    (ofOccurrences start stop occurrences).Sums start stop occurrences := by
  induction occurrences using List.reverseRecOn with
  | nil => exact ⟨fun _ => rfl, fun _ => rfl, rfl⟩
  | append_singleton seen o sums =>
    unfold ofOccurrences
    rw [List.foldl_append]
    exact sums.add o

theorem Sums.impactedChanges (sums : t.Sums start stop seen) (type : FlakeType) :
    t.impactedChanges type = (countOf (inWindow seen type start stop)).impactedChanges := by
  unfold FlakeTally.impactedChanges countOf
  rw [sums.changes]
  by_cases nothing : inWindow seen type start stop = [] <;> simp [nothing]

theorem Sums.counts (sums : t.Sums start stop seen) : t.counts = countsOf seen start stop := by
  refine SortedMap.ext_get? fun type => ?_
  unfold FlakeTally.counts
  rw [SortedMap.get?_map, sums.occurrences, sums.impactedChanges, get?_countsOf]
  split <;> rfl

end FlakeTally

end CulpritFinding
