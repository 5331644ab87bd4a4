import CulpritFinding.Failure.Kind
import CulpritFinding.Failure.Signal
import CulpritFinding.Text.Blank
import CulpritFinding.Text.Digit
import CulpritFinding.Text.Lines
import CulpritFinding.Text.Pattern

namespace CulpritFinding

namespace LogPattern

open Pattern

def extensions : List String :=
  ["cc", "cpp", "cxx", "c", "h", "hh", "hpp", "mm", "m", "py", "java", "js", "ts", "gn", "gni",
   "proto", "mojom", "idl", "rs", "go", "html"]

def isNameChar (c : Char) : Bool := isWord c || c = '-'

def isDirectoryChar (c : Char) : Bool := isNameChar c || c = '.'

def opensPath (c : Char) : Bool :=
  isBlank c || c = '(' || c = '[' || c = ':' || c = '\'' || c = '"'

def path : Pattern :=
  inOrder [.many (.seq (oneOrMore (.one isDirectoryChar)) (.one (· == '/'))),
    oneOrMore (.one isNameChar),
    .many (.seq (.one (· == '.')) (oneOrMore (.one isNameChar))),
    .one (· == '.'), anyText extensions, .wordEdge]

def lineNumber : Pattern :=
  .seq (.one fun c => c = ':' || c = '(') (.group 2 (oneOrMore (.one isDecimalDigit)))

/-- A mention of a file: the path is group 1, the line number, if there is one, group 2. -/
def fileReference : Pattern :=
  inOrder [.either .atStart (.one opensPath), .group 1 path, optional lineNumber]

def commandOption (name : String) : Pattern :=
  inOrder [.one isBlank, text name, oneOrMore (.one isBlank),
    .group 1 (oneOrMore (.one fun c => !isBlank c))]

def identifier : Pattern :=
  .seq (.one fun c => isAsciiWord c && !isAsciiDigit c) (.many (.one isWord))

def qualifiedName : Pattern :=
  inOrder [.wordEdge, identifier, oneOrMore (.seq (text "::") identifier), .wordEdge]

end LogPattern

/-- A text without one of some texts at its front, as often as it starts with one of them; `fuel`
bounds how often. -/
def withoutFronts (fronts : List (List Char)) : (fuel : Nat) → List Char → List Char
  | 0, cs => cs
  | fuel + 1, cs =>
    match fronts.findSome? fun front => withoutFront? front cs with
    | some rest => withoutFronts fronts fuel rest
    | none => cs

def normalizePath (path : List Char) : List Char :=
  let inner := withoutFronts ["../".toList, "./".toList] path.length path
  (withoutFront? "src/".toList inner).getD inner

def lineNumber? (cs : List Char) : Option Nat := do
  let n ← wholeNumber? cs
  if n < limit32 then some n else none

namespace FailureSignal

def addFiles (s : FailureSignal) (log : List Char) : FailureSignal :=
  (LogPattern.fileReference.findAll log).foldl
    (fun s m =>
      match m.group? 1 with
      | some path =>
        s.addFile (String.ofList (normalizePath path)) ((m.group? 2).bind lineNumber?)
      | none => s)
    s

def addNames (s : FailureSignal) (log : List Char) : FailureSignal :=
  (LogPattern.qualifiedName.findAll log).foldl (fun s m => s.addKeyword (String.ofList m.text)) s

/-- The targets that did not build: the output of the command that was run, with its source, or
else the output nodes. -/
def failedTargetsOf (nodes : List (List Char)) (command : List Char) : List FailedTarget :=
  let value (option : String) : Option (List Char) :=
    ((LogPattern.commandOption option).find? command).bind (·.group? 1)
  match value "-o" with
  | some output =>
    [⟨(value "-c").map fun source => String.ofList (normalizePath source), String.ofList output⟩]
  | none => nodes.map fun node => ⟨none, String.ofList node⟩

def failedNodes? (line : List Char) : Option (List (List Char)) :=
  match withoutFront? "FAILED: ".toList line with
  | none | some [] => none
  | some names => some (words names)

/-- Evidence with what did not build according to the lines of a log. A line that names output
nodes is followed by the command that was run. -/
def addFailures (s : FailureSignal) : List (List Char) → FailureSignal
  | [] => s
  | line :: rest =>
    match failedNodes? line with
    | none => s.addFailures rest
    | some nodes =>
      let targets := failedTargetsOf nodes (rest.head?.getD [])
      ((s.addNodes (nodes.map String.ofList)).addTargets targets).addFailures rest

def ofCompileLog (log : String) : FailureSignal :=
  (empty.addFiles log.toList).addFailures (lines log.toList)

def ofTestLog (log : String) : FailureSignal := (empty.addFiles log.toList).addNames log.toList

end FailureSignal

/-- The evidence on a step. Where a step ran tests, what was found out about its tests is evidence
on the step too. -/
def StepSignal.ofLog (kind : FailureKind) (log : StepLog) : StepSignal :=
  match kind with
  | .compile => ⟨.ofCompileLog log.log, .empty⟩
  | .test =>
    let tests := log.tests.map fun _ text => FailureSignal.ofTestLog text
    ⟨tests.values.foldl .merge (.ofTestLog log.log), tests⟩

def FailureSignals.ofLogs (kind : FailureKind) (logs : StepLogs) : FailureSignals :=
  logs.map fun _ log => .ofLog kind log

end CulpritFinding
