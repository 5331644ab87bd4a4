import CulpritFinding.Json.Format

namespace CulpritFinding

/-- A target that did not build, with the source it was compiled from. A target that failed to
link has no source. -/
structure FailedTarget where
  source : Option String
  target : String
  deriving DecidableEq

namespace FailedTarget

def format : Format FailedTarget := .record <|
  Shape.pure FailedTarget.mk
    |>.optional "source" .text (·.source)
    |>.required "target" .text (·.target)

end FailedTarget

def appendNew {α : Type} [DecidableEq α] (xs more : List α) : List α :=
  more.foldl (fun xs x => if x ∈ xs then xs else xs ++ [x]) xs

structure FailureSignal where
  files : SortedMap String (List Nat)
  keywords : SortedMap String Nat
  failedOutputNodes : SortedSet String
  failedTargets : List FailedTarget
  deriving DecidableEq

namespace FailureSignal

def empty : FailureSignal := ⟨.empty, .empty, .empty, []⟩

def isEmpty (s : FailureSignal) : Bool :=
  s.files.isEmpty && s.keywords.isEmpty && s.failedOutputNodes.isEmpty && s.failedTargets.isEmpty

def addLines (s : FailureSignal) (path : String) (lines : List Nat) : FailureSignal :=
  { s with files := s.files.upsert path fun known => appendNew (known.getD []) lines }

def addFile (s : FailureSignal) (path : String) (line : Option Nat) : FailureSignal :=
  s.addLines path line.toList

def addMentions (s : FailureSignal) (keyword : String) (count : Nat) : FailureSignal :=
  { s with keywords := s.keywords.upsert keyword fun known => known.getD 0 + count }

def addKeyword (s : FailureSignal) (keyword : String) : FailureSignal := s.addMentions keyword 1

def addNodes (s : FailureSignal) (nodes : List String) : FailureSignal :=
  { s with failedOutputNodes := s.failedOutputNodes.insertAll nodes }

def addTargets (s : FailureSignal) (targets : List FailedTarget) : FailureSignal :=
  { s with failedTargets := appendNew s.failedTargets targets }

def merge (s other : FailureSignal) : FailureSignal :=
  let s := other.files.toList.foldl (fun s e => s.addLines e.1 e.2) s
  let s := other.keywords.toList.foldl (fun s e => s.addMentions e.1 e.2) s
  (s.addNodes other.failedOutputNodes.toList).addTargets other.failedTargets

def format : Format FailureSignal := .record <|
  Shape.pure FailureSignal.mk
    |>.withDefault "files" (.map (.list .nat32)) (·.files) .empty
    |>.withDefault "keywords" (.map .nat32) (·.keywords) .empty
    |>.withDefault "failed_output_nodes" (.set .text) (·.failedOutputNodes) .empty
    |>.withDefault "failed_targets" (.list FailedTarget.format) (·.failedTargets) []

end FailureSignal

structure StepSignal where
  signal : FailureSignal
  tests : SortedMap String FailureSignal
  deriving DecidableEq

namespace StepSignal

def isEmpty (s : StepSignal) : Bool := s.signal.isEmpty && s.tests.values.all (·.isEmpty)

def format : Format StepSignal := .record <|
  Shape.pure StepSignal.mk
    |>.required "signal" FailureSignal.format (·.signal)
    |>.withDefault "tests" (.map FailureSignal.format) (·.tests) .empty

end StepSignal

abbrev FailureSignals := SortedMap String StepSignal

def FailureSignals.format : Format FailureSignals := .map StepSignal.format

structure StepLog where
  log : String
  tests : SortedMap String String
  deriving DecidableEq

namespace StepLog

def format : Format StepLog := .record <|
  Shape.pure StepLog.mk
    |>.withDefault "log" .text (·.log) ""
    |>.withDefault "tests" (.map .text) (·.tests) .empty

end StepLog

abbrev StepLogs := SortedMap String StepLog

def StepLogs.format : Format StepLogs := .map StepLog.format

end CulpritFinding
