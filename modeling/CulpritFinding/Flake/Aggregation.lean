import CulpritFinding.Engine
import CulpritFinding.Flake.Name

namespace CulpritFinding

def laterOf (known : Option Instant) (t : Instant) : Option Instant :=
  some ((known.map (·.latest t)).getD t)

structure FlakeTally where
  occurrences : SortedMap FlakeType Int
  changes : SortedMap FlakeType (SortedSet Int)
  lastOccurred : Option Instant
  deriving DecidableEq

namespace FlakeTally

def empty : FlakeTally := ⟨.empty, .empty, none⟩

def see (t : FlakeTally) (type : FlakeType) : FlakeTally :=
  { t with occurrences := t.occurrences.upsert type (·.getD 0) }

/-- Counts an occurrence that lies in the window. Its type has an entry among the changes even if
the occurrence belongs to no change. -/
def count (t : FlakeTally) (o : FlakeOccurrence) : FlakeTally :=
  { t with
    occurrences := t.occurrences.upsert o.flakeType (·.getD 0 + 1)
    changes := t.changes.upsert o.flakeType fun known =>
      if o.hasChange then (known.getD .empty).insert o.changeId else known.getD .empty }

/-- Looks at one more occurrence. One that is not in the past only shows its type, and one before
the window only when the flake occurred. -/
def add (start stop : Instant) (t : FlakeTally) (o : FlakeOccurrence) : FlakeTally :=
  let seen := t.see o.flakeType
  if !o.timeHappened.isBefore stop then seen
  else
    let past := { seen with lastOccurred := laterOf seen.lastOccurred o.timeHappened }
    if o.timeHappened.isBefore start then past else past.count o

def ofOccurrences (start stop : Instant) (occurrences : List FlakeOccurrence) : FlakeTally :=
  occurrences.foldl (add start stop) empty

def impactedChanges (t : FlakeTally) (type : FlakeType) : Int :=
  match t.changes.get? type with
  | none => 0
  | some changes => if changes.isEmpty then -1 else changes.size

def counts (t : FlakeTally) : SortedMap FlakeType FlakeTypeCount :=
  t.occurrences.map fun type n => ⟨n, t.impactedChanges type⟩

end FlakeTally

namespace FlakeAggregate

/-- The score of some counts, which are added up in the order of the types, if every sum fits. -/
def score? (weights : FlakeWeights) (counts : SortedMap FlakeType FlakeTypeCount) : Option Int :=
  counts.toList.foldlM (fun sum e => do int64? (sum + (← e.2.score? (weights.weight e.1)))) 0

def ofOccurrences? (occurrences : List FlakeOccurrence) (now : Instant) (window : Span)
    (weights : FlakeWeights) : Option FlakeAggregate :=
  let start := now.minus window
  if start.isInRange then do
    let tally := FlakeTally.ofOccurrences start now occurrences
    let score ← score? weights tally.counts
    return {
      counts := tally.counts
      score
      windowStart := start
      windowEnd := now
      lastOccurred := tally.lastOccurred }
  else none

def total (a : FlakeAggregate) : Int := a.counts.values.foldr (fun c n => c.occurrences + n) 0

end FlakeAggregate

def FlakeOccurrence.key (o : FlakeOccurrence) : String := FlakeName.key o.stepName o.testName

def groupByFlake (occurrences : List FlakeOccurrence) : SortedMap String (List FlakeOccurrence) :=
  occurrences.foldl (fun m o => m.upsert o.key fun known => known.getD [] ++ [o]) .empty

def aggregateFlake (services : Services) (now : Instant) (window : Span) (key : String)
    (occurrences : List FlakeOccurrence) : Engine FlakeAggregate := do
  match FlakeAggregate.ofOccurrences? occurrences now window services.config.flakeWeights with
  | none => throw .outOfRange
  | some aggregate =>
    Engine.putFlake services key aggregate
    Engine.record (.flakeAggregated aggregate.total)
    return aggregate

def aggregateFlakes (services : Services) (occurrences : List FlakeOccurrence) (now : Instant) :
    Engine (SortedMap String FlakeAggregate) := do
  match services.config.flakeWindow? with
  | none => throw .outOfRange
  | some window =>
    let aggregates ← (groupByFlake occurrences).toList.mapM fun e => do
      return (e.1, ← aggregateFlake services now window e.1 e.2)
    return .ofList aggregates

end CulpritFinding
