import CulpritFinding.Config
import CulpritFinding.Text.Blank
import CulpritFinding.Text.Lines

namespace CulpritFinding

abbrev Variables := String → Option String

namespace Variables

def all : List String :=
  ["CULPRIT_MAX_BUILDS_TO_CHECK", "CULPRIT_STRICT_REGEX_PROJECTS", "CULPRIT_USE_NINJA_OUTPUT_LOG",
   "CULPRIT_FLAKE_WINDOW_DAYS", "CULPRIT_TRY_JOB_POOL", "CULPRIT_TRY_JOB_CLAIM_TIMEOUT_SECONDS"]

def natural? (cs : List Char) : Option Nat :=
  match cs with
  | '+' :: digits => wholeNumber? digits
  | digits => wholeNumber? digits

def nat64? (s : String) : Option Nat := do
  let n ← natural? s.toList
  if n < limit64 then some n else none

def int64? (s : String) : Option Int := do
  let n : Int ← match s.toList with
    | '-' :: digits => (wholeNumber? digits).map fun n => -(n : Int)
    | cs => (natural? cs).map fun n => (n : Int)
  if fitsInt64 n then some n else none

def flag? (s : String) : Option Bool :=
  if s = "true" then some true else if s = "false" then some false else none

def names (s : String) : List String :=
  ((splitAtEach ',' s.toList).map fun name => String.ofList (trim name)).filter (· ≠ "")

def valueOr {α : Type} (env : Variables) (name : String) (read? : String → Option α)
    (standard : α) : α :=
  ((env name).bind read?).getD standard

end Variables

def Config.ofVariables (env : Variables) : Config :=
  let standard := Config.standard
  { standard with
    maxBuildsToCheck :=
      env.valueOr "CULPRIT_MAX_BUILDS_TO_CHECK" Variables.nat64? standard.maxBuildsToCheck
    strictRegexProjects :=
      env.valueOr "CULPRIT_STRICT_REGEX_PROJECTS" (fun s => some (.ofList (Variables.names s)))
        standard.strictRegexProjects
    useNinjaOutputLog :=
      env.valueOr "CULPRIT_USE_NINJA_OUTPUT_LOG" Variables.flag? standard.useNinjaOutputLog
    flakeWindowDays :=
      env.valueOr "CULPRIT_FLAKE_WINDOW_DAYS" Variables.int64? standard.flakeWindowDays
    tryJobPool := env.valueOr "CULPRIT_TRY_JOB_POOL" some standard.tryJobPool
    claimTimeoutSeconds :=
      env.valueOr "CULPRIT_TRY_JOB_CLAIM_TIMEOUT_SECONDS" Variables.int64?
        standard.claimTimeoutSeconds }

end CulpritFinding
