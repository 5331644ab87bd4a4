import CulpritFinding.Proofs.Flake.Score
import CulpritFinding.Proofs.Run
import Mathlib.Data.List.TakeWhile

namespace CulpritFinding

namespace Instant

theorem isBefore_iff {t t' : Instant} :
    t.isBefore t' = true ↔ t.second < t'.second ∨ (t.second = t'.second ∧ t.nanos < t'.nanos) := by
  simp only [isBefore, Bool.or_eq_true, Bool.and_eq_true, decide_eq_true_eq]

theorem latest_comm (t t' : Instant) : t.latest t' = t'.latest t := by
  obtain ⟨second, nanos⟩ := t
  obtain ⟨second', nanos'⟩ := t'
  simp only [latest, isBefore_iff]
  split <;> split <;> simp only [mk.injEq] <;> omega

theorem latest_assoc (t t' t'' : Instant) :
    (t.latest t').latest t'' = t.latest (t'.latest t'') := by
  by_cases first : t.isBefore t' = true <;> by_cases second : t'.isBefore t'' = true
  · have third : t.isBefore t'' = true := by
      rw [isBefore_iff] at *
      omega
    simp [latest, first, second, third]
  · simp [latest, first, second]
  · simp [latest, first, second]
  · have third : ¬ t.isBefore t'' = true := by
      rw [isBefore_iff] at *
      omega
    simp [latest, first, second, third]

end Instant

theorem sum_length_filter {α κ : Type} [DecidableEq κ] (key : α → κ) {keys : List κ}
    (once : keys.Nodup) (xs : List α) (covered : ∀ x ∈ xs, key x ∈ keys) :
    (keys.map fun k => ((xs.filter fun x => key x = k).length : Int)).sum = xs.length := by
  induction xs with
  | nil => simp
  | cons x xs ih =>
    obtain ⟨mine, others⟩ := List.forall_mem_cons.mp covered
    have split : ∀ k, (((x :: xs).filter fun x => key x = k).length : Int) =
        (xs.filter fun x => key x = k).length + if k = key x then 1 else 0 := by
      intro k
      rw [List.filter_cons]
      by_cases same : key x = k
      · simp [same]
      · simp [same, Ne.symm same]
    have counted : (keys.map fun k => if k = key x then (1 : Int) else 0).sum = 1 := by
      rw [List.sum_map_eq_nsmul_single (key x) _ (by simp +contextual),
        once.count, if_pos mine]
      simp
    simp only [split]
    rw [List.sum_map_add, ih others, counted, List.length_cons, Int.natCast_succ]

namespace FlakeAggregate

variable {occurrences occurrences' : List FlakeOccurrence}

theorem laterOf_right_comm (known : Option Instant) (t t' : Instant) :
    laterOf (laterOf known t) t' = laterOf (laterOf known t') t := by
  cases known with
  | none => exact congrArg some (Instant.latest_comm t t')
  | some first =>
    refine congrArg some ?_
    show (first.latest t).latest t' = (first.latest t').latest t
    rw [Instant.latest_assoc, Instant.latest_comm t t', ← Instant.latest_assoc]

theorem countOf_perm (perm : occurrences.Perm occurrences') :
    countOf occurrences = countOf occurrences' := by
  have changes : SortedSet.ofList ((occurrences.filter (·.hasChange)).map (·.changeId)) =
      SortedSet.ofList ((occurrences'.filter (·.hasChange)).map (·.changeId)) := by
    refine SortedSet.ext_mem fun change => ?_
    rw [SortedSet.mem_ofList, SortedSet.mem_ofList]
    exact ((perm.filter _).map _).mem_iff
  have none : occurrences.isEmpty = occurrences'.isEmpty := by
    rw [Bool.eq_iff_iff, List.isEmpty_iff_length_eq_zero, List.isEmpty_iff_length_eq_zero,
      perm.length_eq]
  unfold countOf changesOf
  rw [changes, none, perm.length_eq]

theorem typesOf_perm (perm : occurrences.Perm occurrences') :
    typesOf occurrences = typesOf occurrences' := by
  unfold typesOf
  congr
  funext t
  exact perm.any_eq

theorem lastBefore_perm (perm : occurrences.Perm occurrences') (now : Instant) :
    lastBefore occurrences now = lastBefore occurrences' now :=
  ((perm.map _).filter _).foldl_eq' (fun t _ t' _ known => laterOf_right_comm known t t') none

theorem ofOccurrences_perm (perm : occurrences.Perm occurrences') (now : Instant) (window : Span)
    (weights : FlakeWeights) :
    ofOccurrences occurrences now window weights =
      ofOccurrences occurrences' now window weights := by
  have counts : ∀ t start, countOf (inWindow occurrences t start now) =
      countOf (inWindow occurrences' t start now) := by
    intro t start
    exact countOf_perm (perm.filter _)
  unfold ofOccurrences countsOf
  simp only [counts, typesOf_perm perm, lastBefore_perm perm]

theorem ofOccurrences?_perm (perm : occurrences.Perm occurrences') {now : Instant} {window : Span}
    (inTime : (now.minus window).isInRange = true) (weights : FlakeWeights) :
    ofOccurrences? occurrences' now window weights =
      ofOccurrences? occurrences now window weights := by
  rw [ofOccurrences?_eq _ _ _ _ inTime, ofOccurrences?_eq _ _ _ _ inTime, ofOccurrences_perm perm]

end FlakeAggregate

theorem FlakeAggregate.total_eq_sum (a : FlakeAggregate) :
    a.total = (a.counts.toList.map (·.2.occurrences)).sum := by
  unfold total SortedMap.values
  rw [List.foldr_map, List.sum_eq_foldr, List.foldr_map]

theorem FlakeAggregate.total_ofOccurrences (occurrences : List FlakeOccurrence) (now : Instant)
    (window : Span) (weights : FlakeWeights) :
    (ofOccurrences occurrences now window weights).total =
      (occurrences.filter (·.counts (now.minus window) now)).length := by
  have sorted : ∀ t, inWindow occurrences t (now.minus window) now =
      (occurrences.filter (·.counts (now.minus window) now)).filter (·.flakeType = t) := by
    intro t
    exact List.filter_filter.symm
  have once : (typesOf occurrences).Nodup :=
    (ascending_typesOf occurrences).imp fun before => SortKey.ne_of_before before
  have counts : (ofOccurrences occurrences now window weights).counts.toList =
      (typesOf occurrences).map fun t =>
        (t, countOf (inWindow occurrences t (now.minus window) now)) := rfl
  rw [total_eq_sum, counts, List.map_map,
    ← sum_length_filter (·.flakeType) once _ fun o member =>
      mem_typesOf.mpr ⟨o, List.mem_of_mem_filter member, rfl⟩]
  simp only [← sorted]
  rfl

section Grouping

variable (key : String) (occurrences : List FlakeOccurrence)

def appendGroup (known : Option (List FlakeOccurrence)) (more : List FlakeOccurrence) :
    Option (List FlakeOccurrence) :=
  if more = [] then known else some (known.getD [] ++ more)

theorem get?_groupInto (m : SortedMap String (List FlakeOccurrence)) :
    (occurrences.foldl (fun m o => m.upsert o.key fun known => known.getD [] ++ [o]) m).get? key =
      appendGroup (m.get? key) (occurrences.filter (·.key = key)) := by
  induction occurrences generalizing m with
  | nil => rfl
  | cons o rest ih =>
    rw [List.foldl_cons, ih, SortedMap.get?_upsert]
    by_cases mine : o.key = key
    · have first : (o :: rest).filter (·.key = key) = o :: rest.filter (·.key = key) :=
        List.filter_cons_of_pos (decide_eq_true mine)
      rw [if_pos mine, first]
      unfold appendGroup
      by_cases last : rest.filter (·.key = key) = []
      · simp [last]
      · simp [last]
    · rw [if_neg mine, List.filter_cons_of_neg (by simpa using mine)]

theorem get?_groupByFlake :
    (groupByFlake occurrences).get? key =
      if key ∈ occurrences.map (·.key) then some (occurrences.filter (·.key = key)) else none := by
  have none : occurrences.filter (·.key = key) = [] ↔ key ∉ occurrences.map (·.key) := by
    simp [List.filter_eq_nil_iff]
  unfold groupByFlake
  rw [get?_groupInto, SortedMap.get?_empty]
  by_cases known : key ∈ occurrences.map (·.key)
  · simp [appendGroup, none, known]
  · simp [appendGroup, none, known]

end Grouping

def FlakeAggregate.byKey (occurrences : List FlakeOccurrence) (now : Instant) (window : Span)
    (weights : FlakeWeights) : SortedMap String FlakeAggregate :=
  (groupByFlake occurrences).map fun _ group => ofOccurrences group now window weights

namespace FlakeAggregate

variable (occurrences : List FlakeOccurrence) (now : Instant) (window : Span)
  (weights : FlakeWeights)

theorem get?_byKey (key : String) :
    (byKey occurrences now window weights).get? key =
      if key ∈ occurrences.map (·.key) then
        some (ofOccurrences (occurrences.filter (·.key = key)) now window weights)
      else none := by
  unfold byKey
  rw [SortedMap.get?_map, get?_groupByFlake]
  split <;> rfl

theorem byKey_perm {occurrences occurrences' : List FlakeOccurrence}
    (perm : occurrences.Perm occurrences') :
    byKey occurrences now window weights = byKey occurrences' now window weights := by
  refine SortedMap.ext_get? fun key => ?_
  have known : key ∈ occurrences.map (·.key) ↔ key ∈ occurrences'.map (·.key) :=
    (perm.map _).mem_iff
  simp only [get?_byKey, known, ofOccurrences_perm (perm.filter _)]

theorem sum_total_byKey :
    ((byKey occurrences now window weights).values.map (·.total)).sum =
      ((occurrences.filter (·.counts (now.minus window) now)).length : Int) := by
  have covered : ∀ o ∈ occurrences.filter (·.counts (now.minus window) now),
      o.key ∈ (groupByFlake occurrences).keys := by
    intro o member
    have known : o.key ∈ occurrences.map (·.key) :=
      List.mem_map_of_mem (List.mem_of_mem_filter member)
    have found := get?_groupByFlake o.key occurrences
    rw [if_pos known] at found
    exact List.mem_map_of_mem (f := (·.1)) (SortedMap.get?_eq_some.mp found)
  rw [← sum_length_filter (·.key) (SortedMap.nodup_keys _) _ covered]
  unfold SortedMap.values byKey SortedMap.map SortedMap.keys
  rw [List.map_map, List.map_map, List.map_map]
  congr 1
  refine List.map_congr_left fun e member => ?_
  have found : (groupByFlake occurrences).get? e.1 = some e.2 := SortedMap.get?_eq_some.mpr member
  have group : e.2 = occurrences.filter (·.key = e.1) := by
    rw [get?_groupByFlake] at found
    split at found
    · exact (Option.some.inj found).symm
    · cases found
  show (ofOccurrences e.2 now window weights).total = _
  rw [total_ofOccurrences, group]
  exact congrArg (fun os : List FlakeOccurrence => (os.length : Int)) (List.filter_comm ..)

end FlakeAggregate

namespace Store

def putFlakes (s : Store) (entries : List (String × FlakeAggregate)) : Store :=
  entries.foldl (fun s e => s.putFlake e.1 e.2) s

theorem flake?_putFlake (s : Store) (key key' : String) (aggregate : FlakeAggregate) :
    (s.putFlake key aggregate).flake? key' =
      if key = key' then some aggregate else s.flake? key' :=
  Table.get?_put ..

theorem putFlakes_frame (s : Store) (entries : List (String × FlakeAggregate)) :
    s.putFlakes entries = { s with flakes := (s.putFlakes entries).flakes } := by
  unfold putFlakes
  induction entries generalizing s with
  | nil => rfl
  | cons e rest ih =>
    rw [List.foldl_cons]
    exact ih (s.putFlake e.1 e.2)

theorem flake?_putFlakes (s : Store) (m : SortedMap String FlakeAggregate) (key : String) :
    (s.putFlakes m.toList).flake? key = (m.get? key).or (s.flake? key) :=
  get_foldl_put flake?_putFlake s m.nodup_keys key

theorem putFlakes_of_flake? {s : Store} {entries : List (String × FlakeAggregate)}
    (known : ∀ e ∈ entries, s.flake? e.1 = some e.2) : s.putFlakes entries = s := by
  unfold putFlakes
  induction entries with
  | nil => rfl
  | cons e rest ih =>
    obtain ⟨first, others⟩ := List.forall_mem_cons.mp known
    have same : s.putFlake e.1 e.2 = s := by
      unfold putFlake
      rw [Table.put_of_get? first]
    rw [List.foldl_cons, same, ih others]

end Store

/-- The state after an aggregation: a record is stored and counted for each of the flakes. -/
def EngineState.withFlakes (s : EngineState) (entries : List (String × FlakeAggregate)) :
    EngineState :=
  entries.foldl (fun s e =>
    { s.counting (.flakeAggregated e.2.total) with store := s.store.putFlake e.1 e.2 }) s

theorem EngineState.store_withFlakes (s : EngineState) (entries : List (String × FlakeAggregate)) :
    (s.withFlakes entries).store = s.store.putFlakes entries := by
  unfold withFlakes Store.putFlakes
  induction entries generalizing s with
  | nil => rfl
  | cons e rest ih => exact ih _

theorem EngineState.withFlakes_frame (s : EngineState) (entries : List (String × FlakeAggregate)) :
    (s.withFlakes entries).store =
      { s.store with flakes := (s.withFlakes entries).store.flakes } := by
  rw [store_withFlakes]
  exact Store.putFlakes_frame ..

theorem Engine.runOn_mapM {α β : Type} {f : α → Engine β} {works : α → Bool} {answer : α → β}
    {step : EngineState → α → EngineState} {e : AnalysisError}
    (runs : ∀ a s, (f a).runOn s = if works a then (.ok (answer a), step s a) else (.error e, s))
    (as : List α) (s : EngineState) :
    (as.mapM f).runOn s =
      (if as.all works then .ok (as.map answer) else .error e,
        (as.takeWhile works).foldl step s) := by
  induction as generalizing s with
  | nil => rfl
  | cons a rest ih =>
    rw [List.mapM_cons, List.takeWhile_cons, List.all_cons, runOn_bind, runs]
    cases works a with
    | false => rfl
    | true =>
      rw [if_pos rfl, if_pos rfl]
      dsimp only
      rw [runOn_bind, ih]
      cases rest.all works <;> rfl

namespace SortedMap

variable {κ ν : Type} [SortKey κ]

def upTo (m : SortedMap κ ν) (p : κ × ν → Bool) : SortedMap κ ν :=
  ⟨m.toList.takeWhile p, m.ascending.sublist (List.takeWhile_sublist p)⟩

theorem upTo_of_all {m : SortedMap κ ν} {p : κ × ν → Bool} (all : ∀ e ∈ m.toList, p e = true) :
    m.upTo p = m :=
  SortedMap.ext (List.takeWhile_eq_self_iff.mpr all)

theorem mem_upTo (m : SortedMap κ ν) (p : κ × ν → Bool) {e : κ × ν} :
    e ∈ (m.upTo p).toList ↔
      e ∈ m.toList ∧ ∀ e' ∈ m.toList, p e' = false → SortKey.before e.1 e'.1 = true := by
  obtain ⟨entries, ascending⟩ := m
  unfold upTo
  dsimp only
  induction entries with
  | nil => simp
  | cons first rest ih =>
    obtain ⟨below, ascending⟩ := List.pairwise_cons.mp ascending
    rw [List.takeWhile_cons, List.forall_mem_cons, List.mem_cons]
    cases passes : p first with
    | false =>
      refine iff_of_false List.not_mem_nil ?_
      rintro ⟨rfl | member, before, -⟩
      · exact SortKey.ne_of_before (before rfl) rfl
      · exact absurd (before rfl) (by simp [SortKey.not_before_of_before (below e member)])
    | true =>
      rw [if_pos rfl, List.mem_cons, ih ascending]
      constructor
      · rintro (rfl | ⟨member, before⟩)
        · exact ⟨.inl rfl, nofun, fun e' member _ => below e' member⟩
        · exact ⟨.inr member, nofun, before⟩
      · rintro ⟨rfl | member, -, before⟩
        · exact .inl rfl
        · exact .inr ⟨member, before⟩

end SortedMap

variable {services : Services} {window : Span} {now : Instant}

theorem aggregateFlake_runOn (works : services.storeFault .putFlakeAggregate = none)
    (inTime : (now.minus window).isInRange = true) (key : String) (group : List FlakeOccurrence)
    (s : EngineState) :
    let aggregate := FlakeAggregate.ofOccurrences group now window services.config.flakeWeights
    (aggregateFlake services now window key group).runOn s =
      if aggregate.addsUp services.config.flakeWeights then
        (.ok aggregate, s.withFlakes [(key, aggregate)])
      else (.error .outOfRange, s) := by
  unfold aggregateFlake Engine.putFlake
  rw [FlakeAggregate.ofOccurrences?_eq _ _ _ _ inTime]
  dsimp only
  cases FlakeAggregate.addsUp _ services.config.flakeWeights with
  | false => rfl
  | true =>
    simp only [if_true]
    rw [Engine.runOn_bind_ok _ (Engine.runOn_write works _ s),
      Engine.runOn_bind_ok _ (Engine.runOn_record ..)]
    rfl

theorem aggregateFlakes_runOn (works : services.storeFault .putFlakeAggregate = none)
    (length : services.config.flakeWindow? = some window)
    (inTime : (now.minus window).isInRange = true) (occurrences : List FlakeOccurrence)
    (s : EngineState) :
    let weights := services.config.flakeWeights
    let aggregates := FlakeAggregate.byKey occurrences now window weights
    (aggregateFlakes services occurrences now).runOn s =
      (if aggregates.toList.all (·.2.addsUp weights) then .ok aggregates else .error .outOfRange,
        s.withFlakes (aggregates.upTo (·.2.addsUp weights)).toList) := by
  intro weights aggregates
  let entry (e : String × List FlakeOccurrence) : String × FlakeAggregate :=
    (e.1, .ofOccurrences e.2 now window weights)
  have entries : aggregates.toList = (groupByFlake occurrences).toList.map entry := rfl
  have each : ∀ (e : String × List FlakeOccurrence) (s : EngineState),
      (do return (e.1, ← aggregateFlake services now window e.1 e.2) : Engine _).runOn s =
        if (entry e).2.addsUp weights then (.ok (entry e), s.withFlakes [entry e])
        else (.error .outOfRange, s) := by
    intro e s
    rw [Engine.runOn_bind, aggregateFlake_runOn works inTime e.1 e.2 s]
    cases (entry e).2.addsUp weights <;> rfl
  have state : s.withFlakes (aggregates.upTo (·.2.addsUp weights)).toList =
      ((groupByFlake occurrences).toList.takeWhile fun e => (entry e).2.addsUp weights).foldl
        (fun s e => s.withFlakes [entry e]) s := by
    have taken : (aggregates.upTo (·.2.addsUp weights)).toList =
      aggregates.toList.takeWhile (·.2.addsUp weights) := rfl
    rw [taken, entries, List.takeWhile_map]
    exact List.foldl_map ..
  have all : aggregates.toList.all (·.2.addsUp weights) =
      (groupByFlake occurrences).toList.all fun e => (entry e).2.addsUp weights := by
    rw [entries, List.all_map]
    rfl
  unfold aggregateFlakes
  rw [length]
  dsimp only
  rw [Engine.runOn_bind, Engine.runOn_mapM each, state, all]
  cases (groupByFlake occurrences).toList.all fun e => (entry e).2.addsUp weights with
  | false => rfl
  | true => exact congrArg (fun m => (Except.ok m, _)) aggregates.ofList_toList

theorem FlakeAggregate.mem_byKey {occurrences : List FlakeOccurrence} {weights : FlakeWeights}
    {key : String} {a : FlakeAggregate} :
    (key, a) ∈ (byKey occurrences now window weights).toList ↔ key ∈ occurrences.map (·.key) ∧
      a = ofOccurrences (occurrences.filter (·.key = key)) now window weights := by
  rw [← SortedMap.get?_eq_some, get?_byKey]
  split
  · rename_i known
    rw [Option.some_inj, eq_comm, and_iff_right known]
  · rename_i unknown
    exact iff_of_false nofun fun found => unknown found.1

theorem EngineState.flake?_withFlakes (s : EngineState) (m : SortedMap String FlakeAggregate)
    (key : String) :
    (s.withFlakes m.toList).store.flake? key = (m.get? key).or (s.store.flake? key) := by
  rw [store_withFlakes, Store.flake?_putFlakes]

section Complete

variable (works : services.storeFault .putFlakeAggregate = none)
  (length : services.config.flakeWindow? = some window)
  (inTime : (now.minus window).isInRange = true) (occurrences : List FlakeOccurrence)
  (s : EngineState)

include inTime in
theorem FlakeAggregate.ofOccurrences?_eq_none_iff {weights : FlakeWeights} :
    ofOccurrences? occurrences now window weights = none ↔
      (ofOccurrences occurrences now window weights).addsUp weights = false := by
  rw [ofOccurrences?_eq _ _ _ _ inTime]
  split <;> simp_all

include inTime in
theorem FlakeAggregate.ofOccurrences?_of_isSome {weights : FlakeWeights}
    (fits : (ofOccurrences? occurrences now window weights).isSome = true) :
    ofOccurrences? occurrences now window weights =
        some (ofOccurrences occurrences now window weights) ∧
      (ofOccurrences occurrences now window weights).addsUp weights = true := by
  rw [ofOccurrences?_eq _ _ _ _ inTime] at fits ⊢
  split at fits
  · rename_i addsUp
    exact ⟨if_pos addsUp, addsUp⟩
  · cases fits

include works length inTime in
theorem aggregateFlakes_of_addUp (addUp : ∀ key ∈ occurrences.map (·.key),
    (FlakeAggregate.ofOccurrences? (occurrences.filter (·.key = key)) now window
      services.config.flakeWeights).isSome = true) :
    let aggregates := FlakeAggregate.byKey occurrences now window services.config.flakeWeights
    (aggregateFlakes services occurrences now).runOn s =
      (.ok aggregates, s.withFlakes aggregates.toList) := by
  intro aggregates
  have all : ∀ e ∈ aggregates.toList, e.2.addsUp services.config.flakeWeights = true := by
    rintro ⟨key, a⟩ member
    obtain ⟨known, same⟩ := FlakeAggregate.mem_byKey.mp member
    rw [same]
    exact (FlakeAggregate.ofOccurrences?_of_isSome inTime _ (addUp key known)).2
  rw [aggregateFlakes_runOn works length inTime, if_pos (List.all_eq_true.mpr all),
    SortedMap.upTo_of_all all]

include works length inTime in
theorem aggregateFlakes_of_excess (excess : ∃ key ∈ occurrences.map (·.key),
    FlakeAggregate.ofOccurrences? (occurrences.filter (·.key = key)) now window
      services.config.flakeWeights = none) :
    let aggregates := FlakeAggregate.byKey occurrences now window services.config.flakeWeights
    (aggregateFlakes services occurrences now).runOn s =
      (.error .outOfRange,
        s.withFlakes (aggregates.upTo (·.2.addsUp services.config.flakeWeights)).toList) := by
  intro aggregates
  obtain ⟨key, known, excess⟩ := excess
  rw [FlakeAggregate.ofOccurrences?_eq_none_iff inTime] at excess
  have stops : ¬ aggregates.toList.all (·.2.addsUp services.config.flakeWeights) = true := by
    rw [List.all_eq_true]
    intro all
    have fits := all _ (FlakeAggregate.mem_byKey.mpr ⟨known, rfl⟩)
    dsimp only at fits
    rw [excess] at fits
    cases fits
  rw [aggregateFlakes_runOn works length inTime, if_neg stops]

include inTime in
/-- What an aggregation that stops has stored: the flakes before the first that stops it. -/
theorem FlakeAggregate.get?_upTo_byKey (weights : FlakeWeights) (key : String) :
    let keys := occurrences.map (·.key)
    let aggregate? (key : String) :=
      ofOccurrences? (occurrences.filter (·.key = key)) now window weights
    ((byKey occurrences now window weights).upTo (·.2.addsUp weights)).get? key =
      if key ∈ keys ∧ ∀ key' ∈ keys, aggregate? key' = none → SortKey.before key key' = true then
        aggregate? key
      else none := by
  intro keys aggregate?
  refine Option.ext fun a => ?_
  rw [SortedMap.get?_eq_some, SortedMap.mem_upTo, mem_byKey]
  have others : (∀ e ∈ (byKey occurrences now window weights).toList, e.2.addsUp weights = false →
      SortKey.before key e.1 = true) ↔ ∀ key' ∈ keys, aggregate? key' = none →
        SortKey.before key key' = true := by
    constructor
    · intro before key' known stops
      exact before _ (mem_byKey.mpr ⟨known, rfl⟩) ((ofOccurrences?_eq_none_iff inTime _).mp stops)
    · rintro before ⟨key', a⟩ member stops
      obtain ⟨known, rfl⟩ := mem_byKey.mp member
      exact before key' known ((ofOccurrences?_eq_none_iff inTime _).mpr stops)
  dsimp only at others ⊢
  rw [others]
  split
  · rename_i stored
    obtain ⟨known, before⟩ := stored
    -- A key that stops the aggregation does not come before itself.
    have fits : (ofOccurrences (occurrences.filter (·.key = key)) now window weights).addsUp
        weights = true := by
      by_contra excess
      have stops := (ofOccurrences?_eq_none_iff inTime _).mpr (Bool.eq_false_iff.mpr excess)
      exact SortKey.ne_of_before (before key known stops) rfl
    have shown : aggregate? key = some _ :=
      (ofOccurrences?_eq _ _ _ _ inTime).trans (if_pos fits)
    rw [shown, Option.some_inj]
    exact ⟨fun found => found.1.2.symm, fun same => ⟨⟨known, same.symm⟩, before⟩⟩
  · rename_i unstored
    exact iff_of_false (fun found => unstored ⟨found.1.1, found.2⟩) nofun

end Complete

/-- Where the scores of all flakes fit, an aggregation loses no occurrence and counts none twice.
Otherwise it stops at the first flake whose score does not, and has stored the flakes before it. -/
theorem aggregateFlakes_complete (works : services.storeFault .putFlakeAggregate = none)
    (length : services.config.flakeWindow? = some window)
    (inTime : (now.minus window).isInRange = true) (occurrences : List FlakeOccurrence)
    (s : EngineState) :
    let keys := occurrences.map (·.key)
    let aggregate? (key : String) := FlakeAggregate.ofOccurrences?
      (occurrences.filter (·.key = key)) now window services.config.flakeWeights
    ((∀ key ∈ keys, (aggregate? key).isSome = true) →
      ∃ aggregates after,
        (aggregateFlakes services occurrences now).runOn s = (.ok aggregates, after) ∧
        (∀ key, aggregates.get? key = if key ∈ keys then aggregate? key else none) ∧
        (aggregates.values.map (·.total)).sum =
          ((occurrences.filter (·.counts (now.minus window) now)).length : Int) ∧
        (∀ permuted, occurrences.Perm permuted →
          (aggregateFlakes services permuted now).runOn s = (.ok aggregates, after)) ∧
        after.store = { s.store with flakes := after.store.flakes } ∧
        (∀ key, after.store.flake? key = (aggregates.get? key).or (s.store.flake? key)) ∧
        ∃ again, (aggregateFlakes services occurrences now).runOn after =
            (.ok aggregates, again) ∧ again.store = after.store) ∧
    ((∃ key ∈ keys, aggregate? key = none) →
      ∃ after,
        (∀ permuted, occurrences.Perm permuted →
          (aggregateFlakes services permuted now).runOn s = (.error .outOfRange, after)) ∧
        after.store = { s.store with flakes := after.store.flakes } ∧
        ∀ key, after.store.flake? key =
          if key ∈ keys ∧ ∀ key' ∈ keys, aggregate? key' = none → SortKey.before key key' = true
            then aggregate? key else s.store.flake? key) := by
  intro keys aggregate?
  have alike {permuted : List FlakeOccurrence} (perm : occurrences.Perm permuted) (key : String) :
      FlakeAggregate.ofOccurrences? (permuted.filter (·.key = key)) now window
        services.config.flakeWeights = aggregate? key :=
    FlakeAggregate.ofOccurrences?_perm (perm.filter _) inTime _
  constructor
  · intro addUp
    have run := fun s => aggregateFlakes_of_addUp works length inTime occurrences s addUp
    refine ⟨_, _, run s, fun key => ?_, FlakeAggregate.sum_total_byKey .., ?_,
      s.withFlakes_frame _, s.flake?_withFlakes _, _, run _, ?_⟩
    · rw [FlakeAggregate.get?_byKey]
      split
      · rename_i known
        exact (FlakeAggregate.ofOccurrences?_of_isSome inTime _ (addUp key known)).1.symm
      · rfl
    · intro permuted perm
      rw [aggregateFlakes_of_addUp works length inTime permuted,
        FlakeAggregate.byKey_perm _ _ _ perm]
      intro key known
      rw [alike perm]
      exact addUp key ((perm.map _).mem_iff.mpr known)
    · rw [EngineState.store_withFlakes, EngineState.store_withFlakes]
      refine Store.putFlakes_of_flake? fun e member => ?_
      rw [Store.flake?_putFlakes, SortedMap.get?_eq_some.mpr member]
      rfl
  · rintro ⟨key, known, excess⟩
    let weights := services.config.flakeWeights
    let stored := (FlakeAggregate.byKey occurrences now window weights).upTo (·.2.addsUp weights)
    refine ⟨s.withFlakes stored.toList, fun permuted perm => ?_, s.withFlakes_frame _,
      fun key => ?_⟩
    · rw [aggregateFlakes_of_excess works length inTime permuted s
        ⟨key, (perm.map _).mem_iff.mp known, (alike perm key).trans excess⟩,
        ← FlakeAggregate.byKey_perm _ _ _ perm]
    · rw [EngineState.flake?_withFlakes, FlakeAggregate.get?_upTo_byKey inTime]
      split
      · rename_i before
        cases found : aggregate? key with
        | some a => exact congrArg (Option.or · (s.store.flake? key)) found
        | none => exact absurd rfl (SortKey.ne_of_before (before.2 key before.1 found))
      · rfl

namespace Retries

def noon : Instant := ⟨1700000000, 0⟩

def occurrences : List FlakeOccurrence :=
  [⟨.retryWithPatch, 1, "browser_tests (with patch)", "Suite.Case", ⟨1699999990, 0⟩, 7⟩,
    ⟨.cqHiddenFlake, 2, "browser_tests", "Suite.PRE_Case", ⟨1699990000, 0⟩, noChange⟩,
    ⟨.ciFailedStep, 3, "browser_tests", "Suite.Case", ⟨1600000000, 0⟩, noChange⟩]

def crowded : List FlakeOccurrence :=
  [⟨.cqFalseRejection, 4, "base_tests", "Suite.Case", ⟨1699999990, 0⟩, 7⟩,
    ⟨.cqFalseRejection, 5, "base_tests", "Suite.Case", ⟨1699999991, 0⟩, 8⟩,
    ⟨.cqHiddenFlake, 6, "a_tests", "Suite.Case", ⟨1699999990, 0⟩, 7⟩] ++ occurrences

def heavy : Services :=
  let services := Services.giving "8000001"
  { services with config := { services.config with
      flakeWeights := .ofList [(.cqFalseRejection, 9223372036854775807), (.cqHiddenFlake, 1)] } }

/-- Retries count for one flake. With weights of which two do not fit, the flake before the one that
two changes hit is stored, and no other. -/
theorem retries_counted_once :
    (∃ aggregates after,
      (aggregateFlakes (.giving "8000001") occurrences noon).runOn .initial =
        (.ok aggregates, after) ∧
      (aggregates.get? "browser_tests::Suite.Case").map (·.total) = some 2 ∧
      (aggregates.values.map (·.total)).sum = 2) ∧
    ∃ after, (aggregateFlakes heavy crowded noon).runOn .initial = (.error .outOfRange, after) ∧
      (after.store.flake? "a_tests::Suite.Case").map (·.score) = some 1 ∧
      after.store.flake? "base_tests::Suite.Case" = none ∧
      after.store.flake? "browser_tests::Suite.Case" = none := by
  have works := Services.giving_works "8000001" .putFlakeAggregate
  have week : (Services.giving "8000001").config.flakeWindow? = some ⟨604800000000000⟩ := rfl
  have inTime : (noon.minus ⟨604800000000000⟩).isInRange = true := by decide
  obtain ⟨aggregates, after, run, found, total, -⟩ :=
    (aggregateFlakes_complete works week inTime occurrences .initial).1 (by decide +kernel)
  have works' : heavy.storeFault .putFlakeAggregate = none := works
  obtain ⟨stopped, run', -, stored⟩ :=
    (aggregateFlakes_complete works' week inTime crowded .initial).2 (by decide +kernel)
  refine ⟨⟨aggregates, after, run, ?_, total.trans (by decide)⟩, stopped, run' _ (.refl _), ?_⟩
  · rw [found]
    decide +kernel
  · rw [stored, stored, stored]
    decide +kernel

end Retries

end CulpritFinding
