import CulpritFinding.Proofs.Codec.Digits
import CulpritFinding.Scoring

namespace CulpritFinding

inductive Reason
  | added (path : String)
  | deleted (path : String)
  | renamed (old path : String)
  | modified (path : String) (lines : List Nat)
  | related (path file : String)
  | rolled (place former latter : String)
  deriving DecidableEq, Inhabited

namespace Reason

def text : Reason → String
  | added path => "added " ++ path ++ " (and it was in log)"
  | deleted path => "deleted " ++ path ++ " (and it was in log)"
  | renamed old path => "renamed " ++ old ++ " to " ++ path ++ " (and it was in log)"
  | modified path lines =>
    if lines.isEmpty then "modified " ++ path ++ " (and it was in log)"
    else "modified " ++ path ++ "[" ++ ", ".intercalate (lines.map natText) ++ "]" ++
      " (and it was in log)"
  | related path file => "modified " ++ path ++ " (related to " ++ file ++ ")"
  | rolled place former latter => "rolled dep " ++ place ++ " from " ++ former ++ " to " ++ latter

def weight (w : HintWeights) : Reason → Nat
  | added _ => w.addedFile
  | deleted _ => w.deletedFile
  | renamed _ _ => w.renamedFile
  | modified _ lines =>
    if lines.isEmpty then w.modifiedFile else w.modifiedFile + w.modifiedFileWithLines
  | related _ _ => w.relatedFile
  | rolled _ _ _ => w.dependencyRoll

def path? : Reason → Option String
  | added path | deleted path | renamed _ path | modified path _ | related path _ => some path
  | rolled _ _ _ => none

def mark : Reason → List Char
  | added _ => ['a', 'd']
  | deleted _ => ['d', 'e']
  | renamed _ _ => ['r', 'e']
  | modified _ _ | related _ _ => ['m', 'o']
  | rolled _ _ _ => ['r', 'o']

theorem take_text (r : Reason) : r.text.toList.take 2 = r.mark := by
  cases r with
  | modified path lines => cases lines <;> simp [text, mark]
  | added | deleted | renamed | related | rolled => simp [text, mark]

theorem mark_eq {r s : Reason} (same : r.text = s.text) : r.mark = s.mark := by
  rw [← take_text, ← take_text, same]

theorem no_bracket (lines : List Nat) : '[' ∉ (", ".intercalate (lines.map natText)).toList := by
  have digits (n : Nat) : '[' ∉ (natText n).toList := by
    unfold natText
    rw [String.toList_ofList]
    intro member
    have digit := isAsciiDigit_of_mem_toDigits _ member
    exact absurd digit (by decide)
  induction lines with
  | nil => simp
  | cons n rest ih =>
    cases rest with
    | nil => simpa using digits n
    | cons n' rest =>
      rw [List.map_cons, List.map_cons, String.intercalate_cons_cons, String.toList_append,
        String.toList_append, List.mem_append, List.mem_append, not_or, not_or]
      exact ⟨⟨digits n, by decide⟩, ih⟩

theorem eq_of_last_eq {c : Char} {xs ys rest rest' : List Char} (last : c ∉ rest)
    (last' : c ∉ rest') (same : xs ++ c :: rest = ys ++ c :: rest') : xs = ys := by
  induction xs generalizing ys with
  | nil =>
    cases ys with
    | nil => rfl
    | cons d ys =>
      have tail : rest = ys ++ c :: rest' := (List.cons.inj same).2
      exact absurd (by simp [tail]) last
  | cons d xs ih =>
    cases ys with
    | nil =>
      have tail : xs ++ c :: rest = rest' := (List.cons.inj same).2
      exact absurd (by simp [← tail]) last'
    | cons d' ys =>
      obtain ⟨rfl, tail⟩ := List.cons.inj same
      rw [ih tail]

/-- Where lines are cited, the text tells the file: its path ends at the last bracket. -/
theorem path_eq_of_text {path path' : String} {line line' : Nat} {lines lines' : List Nat}
    (same : (modified path (line :: lines)).text = (modified path' (line' :: lines')).text) :
    path = path' := by
  have bracket := no_bracket (line :: lines)
  have bracket' := no_bracket (line' :: lines')
  simp only [text, List.isEmpty_cons, Bool.false_eq_true, if_false] at same
  generalize ", ".intercalate ((line :: lines).map natText) = cited at same bracket
  generalize ", ".intercalate ((line' :: lines').map natText) = cited' at same bracket'
  have chars : (path.toList ++ '[' :: cited.toList) ++ "] (and it was in log)".toList =
      (path'.toList ++ '[' :: cited'.toList) ++ "] (and it was in log)".toList := by
    simpa [← String.toList_inj] using same
  rw [← String.toList_inj]
  exact eq_of_last_eq bracket bracket' (List.append_cancel_right chars)

end Reason

def Hints.ofReasons (w : HintWeights) (reasons : List Reason) : Hints :=
  reasons.foldl (fun h r => h.add r.text (r.weight w)) .empty

namespace FileOverlap

def mentionedReason (change : FileChange) (path : String) (lines : List Nat) : Reason :=
  match change.changeType with
  | .add | .copy => .added path
  | .delete => .deleted path
  | .rename => .renamed (change.oldPath.getD path) path
  | .modify => .modified path lines

def fileReason? (signal : FailureSignal) (change : FileChange) : Option Reason :=
  change.path?.bind fun path =>
    match mentionedLines? signal change path with
    | some lines => some (mentionedReason change path lines)
    | none => (signal.files.keys.find? fun file => Path.isRelated path.toList file.toList).map
        (.related path)

def rollReason? (signal : FailureSignal) (roll : DependencyRoll) : Option Reason :=
  if mentionsDependency signal roll then
    some (.rolled roll.depPath (roll.oldRevision.getD "none") roll.newRevision)
  else none

def reasons (signal : FailureSignal) (commit : ChangeLog) (rolls : List DependencyRoll) :
    List Reason :=
  commit.touchedFiles.filterMap (fileReason? signal) ++ rolls.filterMap (rollReason? signal)

section

variable (w : HintWeights) (signal : FailureSignal)

theorem mentionedHint_eq (change : FileChange) (path : String) (lines : List Nat) :
    mentionedHint w change path lines =
      ((mentionedReason change path lines).text, (mentionedReason change path lines).weight w) := by
  unfold mentionedHint mentionedReason
  cases change.changeType with
  | modify => cases none : lines.isEmpty <;> simp [Reason.text, Reason.weight, none]
  | add | delete | rename | copy => rfl

theorem fileHint?_eq (change : FileChange) : fileHint? w signal change =
    (fileReason? signal change).map fun r => (r.text, r.weight w) := by
  unfold fileHint? fileReason?
  cases change.path? with
  | none => rfl
  | some path =>
    cases found : mentionedLines? signal change path with
    | some lines => simp [found, mentionedHint_eq]
    | none =>
      cases related : signal.files.keys.find? fun file =>
          Path.isRelated path.toList file.toList with
      | none => simp [found, related]
      | some file => simp [found, related, Reason.text, Reason.weight]

theorem rollHint?_eq (roll : DependencyRoll) : rollHint? w signal roll =
    (rollReason? signal roll).map fun r => (r.text, r.weight w) := by
  unfold rollHint? rollReason?
  split <;> rfl

theorem reasons_of_noFiles (none : signal.files.isEmpty = true) (commit : ChangeLog)
    (rolls : List DependencyRoll) : reasons signal commit rolls = [] := by
  have nothing : signal.files.toList = [] := List.isEmpty_iff.mp none
  have file (change : FileChange) : fileReason? signal change = .none := by
    unfold fileReason? mentionedLines? SortedMap.keys
    cases change.path? <;> simp [nothing]
  have roll (roll : DependencyRoll) : rollReason? signal roll = .none := by
    unfold rollReason? mentionsDependency SortedMap.keys
    simp [nothing]
  simp [reasons, file, roll]

theorem hints_eq (s : FileOverlap) (commit : ChangeLog) (rolls : List DependencyRoll) :
    s.hints signal commit rolls = Hints.ofReasons s.weights (reasons signal commit rolls) := by
  unfold hints
  dsimp only
  split
  · rename_i none
    rw [reasons_of_noFiles signal none]
    rfl
  · have file : fileHint? s.weights signal = fun change =>
        (fileReason? signal change).map fun r => (r.text, r.weight s.weights) :=
      funext (fileHint?_eq s.weights signal)
    have roll : rollHint? s.weights signal = fun roll =>
        (rollReason? signal roll).map fun r => (r.text, r.weight s.weights) :=
      funext (rollHint?_eq s.weights signal)
    rw [file, roll, ← List.map_filterMap, ← List.map_filterMap, ← List.map_append]
    unfold Hints.ofReasons reasons
    rw [List.foldl_map]

end

section

variable {signal : FailureSignal} {change : FileChange} {path : String}

theorem mentionedLines?_eq_none : mentionedLines? signal change path = none ↔
    ∀ e ∈ signal.files.toList, concerns change path e.1 = false := by
  unfold mentionedLines?
  cases mentions : signal.files.toList.filter fun e => concerns change path e.1 with
  | nil => simpa [List.filter_eq_nil_iff] using mentions
  | cons e rest =>
    have member : e ∈ signal.files.toList.filter fun e => concerns change path e.1 := by
      simp [mentions]
    obtain ⟨listed, concerned⟩ := List.mem_filter.mp member
    simp only [reduceCtorEq, false_iff]
    intro apart
    simp [apart e listed] at concerned

theorem mem_mentionedLines? {lines : List Nat}
    (found : mentionedLines? signal change path = some lines) {line : Nat} :
    line ∈ lines ↔ ∃ e ∈ signal.files.toList, concerns change path e.1 = true ∧ line ∈ e.2 := by
  unfold mentionedLines? at found
  cases mentions : signal.files.toList.filter fun e => concerns change path e.1 with
  | nil => simp [mentions] at found
  | cons e rest =>
    rw [mentions] at found
    cases found
    rw [SortedSet.mem_ofList, ← mentions]
    simp [and_assoc]

theorem fileReason?_named (named : change.path? = some path) : fileReason? signal change =
    match mentionedLines? signal change path with
    | some lines => some (mentionedReason change path lines)
    | none => (signal.files.keys.find? fun file => Path.isRelated path.toList file.toList).map
        (.related path) := by
  unfold fileReason?
  rw [named]
  rfl

theorem fileReason?_eq_some {r : Reason} : fileReason? signal change = some r ↔
    ∃ path, change.path? = some path ∧
      ((∃ lines, mentionedLines? signal change path = some lines ∧
          mentionedReason change path lines = r) ∨
        mentionedLines? signal change path = none ∧ ∃ file,
          (signal.files.keys.find? fun file => Path.isRelated path.toList file.toList) = some file ∧
          .related path file = r) := by
  cases named : change.path? with
  | none => simp [fileReason?, named]
  | some path =>
    rw [fileReason?_named named]
    cases found : mentionedLines? signal change path with
    | some lines => simp [found]
    | none => simp [found]

end

end FileOverlap

end CulpritFinding
