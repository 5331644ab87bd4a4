import CulpritFinding.Flake.Basic

namespace CulpritFinding

structure HintWeights where
  addedFile : Nat
  deletedFile : Nat
  renamedFile : Nat
  modifiedFile : Nat
  modifiedFileWithLines : Nat
  relatedFile : Nat
  dependencyRoll : Nat
  deriving DecidableEq

namespace HintWeights

def standard : HintWeights where
  addedFile := 5
  deletedFile := 5
  renamedFile := 5
  modifiedFile := 2
  modifiedFileWithLines := 2
  relatedFile := 1
  dependencyRoll := 1

def format : Format HintWeights := .record <|
  Shape.pure HintWeights.mk
    |>.withDefault "added_file" .nat32 (·.addedFile) standard.addedFile
    |>.withDefault "deleted_file" .nat32 (·.deletedFile) standard.deletedFile
    |>.withDefault "renamed_file" .nat32 (·.renamedFile) standard.renamedFile
    |>.withDefault "modified_file" .nat32 (·.modifiedFile) standard.modifiedFile
    |>.withDefault "modified_file_with_lines" .nat32 (·.modifiedFileWithLines)
      standard.modifiedFileWithLines
    |>.withDefault "related_file" .nat32 (·.relatedFile) standard.relatedFile
    |>.withDefault "dependency_roll" .nat32 (·.dependencyRoll) standard.dependencyRoll

end HintWeights

abbrev FlakeWeights := SortedMap FlakeType Int

namespace FlakeWeights

def weight (w : FlakeWeights) (t : FlakeType) : Int := (w.get? t).getD 0

def standard : FlakeWeights :=
  .ofList [(.cqFalseRejection, 100), (.retryWithPatch, 10), (.cqHiddenFlake, 1), (.ciFailedStep, 1)]

def format : Format FlakeWeights := FlakeType.mapFormat .int64

end FlakeWeights

structure Config where
  maxBuildsToCheck : Nat
  strictRegexProjects : SortedSet String
  useNinjaOutputLog : Bool
  /-- The steps that compile; all others are test steps. -/
  compileStepNames : List String
  /-- The steps that are recorded, but neither scored nor bisected. -/
  unsupportedStepNames : SortedSet String
  hintWeights : HintWeights
  flakeWeights : FlakeWeights
  flakeWindowDays : Int
  maxSuspectsForTryJob : Nat
  tryJobPool : String
  /-- After this time a claim without an identifier of the scheduler may be taken over. -/
  claimTimeoutSeconds : Int
  deriving DecidableEq

namespace Config

def standard : Config where
  maxBuildsToCheck := 20
  strictRegexProjects := .empty
  useNinjaOutputLog := true
  compileStepNames := ["compile"]
  unsupportedStepNames := .ofList ["bot_update", "presubmit"]
  hintWeights := .standard
  flakeWeights := .standard
  flakeWindowDays := 7
  maxSuspectsForTryJob := 3
  tryJobPool := "luci.culprit.try"
  claimTimeoutSeconds := 600

def claimTimeout? (c : Config) : Option Span := Span.ofSeconds? (max c.claimTimeoutSeconds 0)

def flakeWindow? (c : Config) : Option Span := Span.ofDays? c.flakeWindowDays

def usesStrictRegex (c : Config) (project : String) : Bool :=
  c.strictRegexProjects.contains project

def isCompileStep (c : Config) (step : String) : Bool := step ∈ c.compileStepNames

def isSupportedStep (c : Config) (step : String) : Bool := !c.unsupportedStepNames.contains step

def format : Format Config := .record <|
  Shape.pure Config.mk
    |>.withDefault "max_builds_to_check" .nat64 (·.maxBuildsToCheck) standard.maxBuildsToCheck
    |>.withDefault "strict_regex_projects" (.set .text) (·.strictRegexProjects)
      standard.strictRegexProjects
    |>.withDefault "use_ninja_output_log" .flag (·.useNinjaOutputLog) standard.useNinjaOutputLog
    |>.withDefault "compile_step_names" (.list .text) (·.compileStepNames)
      standard.compileStepNames
    |>.withDefault "unsupported_step_names" (.set .text) (·.unsupportedStepNames)
      standard.unsupportedStepNames
    |>.withDefault "hint_weights" HintWeights.format (·.hintWeights) standard.hintWeights
    |>.withDefault "flake_weights" FlakeWeights.format (·.flakeWeights) standard.flakeWeights
    |>.withDefault "flake_window_days" .int64 (·.flakeWindowDays) standard.flakeWindowDays
    |>.withDefault "max_suspects_for_try_job" .nat64 (·.maxSuspectsForTryJob)
      standard.maxSuspectsForTryJob
    |>.withDefault "try_job_pool" .text (·.tryJobPool) standard.tryJobPool
    |>.withDefault "try_job_claim_timeout_seconds" .int64 (·.claimTimeoutSeconds)
      standard.claimTimeoutSeconds

end Config

end CulpritFinding
