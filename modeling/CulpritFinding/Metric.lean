import CulpritFinding.SortedMap
import CulpritFinding.Text.Number

namespace CulpritFinding

inductive Metric
  | analysisFinished (kind status : String)
  | suspectsFound (kind : String) (count : Nat)
  | failureGrouped (outcome : String)
  | tryJobStatusChanged (status : String)
  | tryJobDuration (seconds : Int)
  | verdictRecorded (outcome : String)
  | flakeAggregated (inWindow : Int)
  deriving DecidableEq

namespace Metric

def labeled (name : String) (labels : List (String × String)) : String :=
  name ++ "\x7b" ++ ",".intercalate (labels.map fun l => l.1 ++ "=" ++ l.2) ++ "\x7d"

def durations : String := labeled "culprit_try_job_duration_seconds" []

def count? : Metric → Option (String × Nat)
  | analysisFinished kind status =>
    some (labeled "culprit_analyses_total" [("kind", kind), ("status", status)], 1)
  | suspectsFound kind count => some (labeled "culprit_suspects_total" [("kind", kind)], count)
  | failureGrouped outcome =>
    some (labeled "culprit_failure_groups_total" [("outcome", outcome)], 1)
  | tryJobStatusChanged status => some (labeled "culprit_try_jobs_total" [("status", status)], 1)
  | tryJobDuration _ => none
  | verdictRecorded outcome => some (labeled "culprit_verdicts_total" [("outcome", outcome)], 1)
  | flakeAggregated _ => some (labeled "culprit_flake_aggregations_total" [], 1)

def sample? : Metric → Option (String × Int)
  | tryJobDuration seconds => some (durations, max seconds 0)
  | flakeAggregated inWindow => some (labeled "culprit_flake_window_occurrences" [], inWindow)
  | _ => none

def summary (event : Metric) : String :=
  match event.count?, event.sample? with
  | _, some (name, value) => name ++ " " ++ intText value
  | some (name, amount), none => name ++ " " ++ natText amount
  | none, none => ""

def counters (events : List Metric) : SortedMap String Nat :=
  (events.filterMap count?).foldl (fun m c => m.upsert c.1 fun known => known.getD 0 + c.2) .empty

def histograms (events : List Metric) : SortedMap String (List Int) :=
  (events.filterMap sample?).foldl (fun m s => m.upsert s.1 fun known => known.getD [] ++ [s.2])
    .empty

end Metric

end CulpritFinding
