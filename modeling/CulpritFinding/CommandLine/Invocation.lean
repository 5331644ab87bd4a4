import CulpritFinding.CommandLine.Arguments
import CulpritFinding.Environment
import CulpritFinding.Failure.Kind

namespace CulpritFinding.CommandLine

inductive Command
  | analyze (recording : String) (key : FailureKey) (database : Option String)
  | identifyCulprit (report : String) (kind : FailureKind)
  | aggregateFlakes (occurrences : String) (stop : Option Instant) (database : Option String)
  | migrate (database : String)
  deriving DecidableEq

structure Invocation where
  config : Option String
  showsMetrics : Bool
  command : Command
  deriving DecidableEq

inductive CommandName
  | analyze
  | identifyCulprit
  | aggregateFlakes
  | migrate
  deriving DecidableEq

namespace OptionRule

def path (name : String) : OptionRule := ⟨name, some (· ≠ "")⟩

def anyText (name : String) : OptionRule := ⟨name, some fun _ => true⟩

def readBy {α : Type} (name : String) (read? : String → Option α) : OptionRule :=
  ⟨name, some fun s => (read? s).isSome⟩

def switch (name : String) : OptionRule := ⟨name, none⟩

end OptionRule

def commonRules : List OptionRule := [.path "config", .switch "print-metrics"]

namespace CommandName

def all : List CommandName := [analyze, identifyCulprit, aggregateFlakes, migrate]

def text : CommandName → String
  | analyze => "analyze"
  | identifyCulprit => "identify-culprit"
  | aggregateFlakes => "aggregate-flakes"
  | migrate => "migrate"

def parse? (s : String) : Option CommandName := Format.named? all text s

def rules (name : CommandName) : List OptionRule :=
  commonRules ++ match name with
    | analyze =>
      [.path "fixture", .anyText "project", .anyText "builder",
       .readBy "build" Variables.int64?, .readBy "kind" FailureKind.parse?,
       .anyText "database-url"]
    | identifyCulprit => [.path "report", .readBy "kind" FailureKind.parse?]
    | aggregateFlakes =>
      [.path "occurrences", .readBy "now" Instant.parse?, .anyText "database-url"]
    | migrate => [.anyText "database-url"]

end CommandName

def databaseOf (options : Options) (env : Variables) : Option String :=
  options.get? "database-url" <|> env "DATABASE_URL"

def Command.ofOptions? (env : Variables) (options : Options) : CommandName → Option Command
  | .analyze => do
    let build : BuildKey :=
      ⟨← options.get? "project", ← options.get? "builder",
       ← (← options.get? "build") |> Variables.int64?⟩
    let kind ← (← options.get? "kind") |> FailureKind.parse?
    return analyze (← options.get? "fixture") ⟨build, kind⟩ (databaseOf options env)
  | .identifyCulprit => do
    let kind := ((options.get? "kind").bind FailureKind.parse?).getD .compile
    return identifyCulprit (← options.get? "report") kind
  | .aggregateFlakes => do
    let stop := (options.get? "now").bind Instant.parse?
    return aggregateFlakes (← options.get? "occurrences") stop (databaseOf options env)
  | .migrate => (databaseOf options env).map migrate

def isHelpTopic : List String → Bool
  | [] => true
  | [name] => name = "help" || (CommandName.parse? name).isSome
  | _ => false

namespace Invocation

/-- What the arguments after the name of a command ask for. Options of all commands may stand before
the name too; those after it count more. -/
def ofCommand (env : Variables) (common : Options) (name : CommandName)
    (args : List String) : Except Stop Invocation := do
  let reading ← readOptions name.rules .empty args
  let given (option : String) := reading.options.get? option <|> common.get? option
  match reading.rest with
  | [] | ["--"] =>
    match Command.ofOptions? env reading.options name with
    | some command => return ⟨given "config", (given "print-metrics").isSome, command⟩
    | none => throw (.misuse (name.text ++ " needs more options"))
  | word :: _ => throw (.misuse ("no place for " ++ word))

def parse (env : Variables) (args : List String) : Except Stop Invocation := do
  let reading ← readOptions commonRules .empty args
  match reading.rest with
  | [] => throw (.misuse "a command is needed")
  | "help" :: topic => throw (if isHelpTopic topic then .help else .misuse "no such command")
  | word :: args =>
    match CommandName.parse? word with
    | some name => ofCommand env reading.options name args
    | none => throw (.misuse ("no command " ++ word))

def files (i : Invocation) : List String :=
  i.config.toList ++ match i.command with
    | .analyze recording _ _ => [recording]
    | .identifyCulprit report _ => [report]
    | .aggregateFlakes occurrences _ _ => [occurrences]
    | .migrate _ => []

end Invocation

end CulpritFinding.CommandLine
