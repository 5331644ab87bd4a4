import CulpritFinding.Evidence
import CulpritFinding.Proofs.Evidence.Merging
import CulpritFinding.Proofs.Text.Joining
import CulpritFinding.Proofs.Text.Lines

namespace CulpritFinding

theorem foldl_of_map_eq {σ α β : Type} {step : σ → α → σ} (content : α → β)
    (looks : ∀ s x y, content x = content y → step s x = step s y) {xs ys : List α}
    (same : xs.map content = ys.map content) (s : σ) : xs.foldl step s = ys.foldl step s := by
  induction xs generalizing ys s with
  | nil => rw [List.map_eq_nil_iff.mp same.symm]
  | cons x xs ih =>
    obtain ⟨y, ys, rfl, first, rest⟩ := List.map_eq_cons_iff.mp same.symm
    rw [List.foldl_cons, List.foldl_cons, looks s x y first.symm]
    exact ih rest.symm _

namespace LogPattern

theorem fileReference_eq : fileReference =
    .opened opensPath (.seq (.group 1 path) (.seq (.optional lineNumber) .nothing)) := rfl

end LogPattern

namespace FailureSignal

open LogPattern

theorem addFiles_join (s : FailureSignal) (a b : List Char) :
    s.addFiles (a ++ '\n' :: b) = (s.addFiles a).addFiles b := by
  unfold addFiles
  rw [← List.foldl_append]
  refine foldl_of_map_eq (·.groups) (fun s m m' same => ?_) ?_ s
  · unfold Pattern.Match.group?
    rw [same]
  · rw [List.map_append, fileReference_eq]
    exact Pattern.map_groups_findAll_join (by decide) (by decide) (by decide +kernel)
      (by decide +kernel) (by decide +kernel) a b

theorem addNames_join (s : FailureSignal) (a b : List Char) :
    s.addNames (a ++ '\n' :: b) = (s.addNames a).addNames b := by
  unfold addNames
  rw [← List.foldl_append]
  refine foldl_of_map_eq (·.text) (fun s m m' same => by rw [same]) ?_ s
  rw [List.map_append]
  exact Pattern.map_text_findAll_join (by decide) (by decide) (by decide +kernel)
    (by decide +kernel) a b

end FailureSignal

namespace Pattern

theorem floats_text (s : String) : (text s).floats = true := by
  unfold text
  induction s.toList with
  | nil => rfl
  | cons c cs ih => exact ih

theorem bind_group?_of_same {m m' : Option Match} (related : Option.Rel Match.Same m m')
    (number : Nat) : m.bind (·.group? number) = m'.bind (·.group? number) := by
  cases related with
  | none => rfl
  | some same =>
    simp only [Option.bind_some, Match.group?, same.2]

end Pattern

namespace LogPattern

theorem find?_commandOption_return (name : String) (command : List Char) :
    Option.Rel Pattern.Match.Same ((commandOption name).find? (command ++ ['\r']))
      ((commandOption name).find? command) := by
  refine Pattern.find?_concat rfl (fun before rest => ?_) command
  have value : (Pattern.group 1 (.oneOrMore (.one fun c => !isBlank c))).consumes = true := rfl
  let front : Pattern := .seq (.one isBlank) (.seq (.text name) (.oneOrMore (.one isBlank)))
  have floats : front.floats = true := by
    simp [front, Pattern.floats, Pattern.floats_text, Pattern.oneOrMore]
  have start : Progress.Extends ['\r'] ⟨⟨before, rest ++ ['\r'], (rest ++ ['\r']).length⟩, []⟩
      ⟨⟨before, rest, rest.length⟩, []⟩ := ⟨rfl, rfl, rfl, rfl, rfl⟩
  show Option.Rel _
    (front.run ((Pattern.group 1 (.oneOrMore (.one fun c => !isBlank c))).run _) _)
    (front.run ((Pattern.group 1 (.oneOrMore (.one fun c => !isBlank c))).run _) _)
  refine Pattern.run_extends ['\r'] (by decide +kernel) floats (fun p q further => ?_)
    (.inr fun p counted ended => ?_) start
  · refine Pattern.run_extends ['\r'] (by decide +kernel) rfl (fun p q further => ?_)
      (.inl (by rintro c ⟨⟩; decide +kernel)) further
    exact .some (Pattern.same_matched start further)
  · obtain ⟨⟨before, rest, left⟩, kept⟩ := p
    have nothing : left = 0 := by simpa using ended
    subst nothing
    cases List.eq_nil_of_length_eq_zero counted.symm
    exact Pattern.run_nil value _ before kept

end LogPattern

namespace FailureSignal

theorem failedTargetsOf_withoutReturn (nodes : List (List Char)) (command : List Char) :
    failedTargetsOf nodes (withoutReturn command) = failedTargetsOf nodes command := by
  unfold withoutReturn
  split
  · rename_i ends
    have value (name : String) :
        ((LogPattern.commandOption name).find? command.dropLast).bind (·.group? 1) =
          ((LogPattern.commandOption name).find? command).bind (·.group? 1) := by
      have related := LogPattern.find?_commandOption_return name command.dropLast
      rw [List.dropLast_append_getLast? _ ends] at related
      exact (Pattern.bind_group?_of_same related 1).symm
    simp only [failedTargetsOf, value]
  · rfl

def NamesNodes (line : List Char) : Prop := ∃ names ≠ [], line = "FAILED: ".toList ++ names

theorem failedNodes?_eq_none_iff {line : List Char} :
    failedNodes? line = none ↔ ¬ NamesNodes line := by
  unfold failedNodes? NamesNodes withoutFront?
  constructor
  · rintro nothing ⟨names, some_, rfl⟩
    obtain ⟨c, names, rfl⟩ := List.exists_cons_of_ne_nil some_
    simp at nothing
  · intro nothing
    by_cases front : "FAILED: ".toList <+: line
    · obtain ⟨names, rfl⟩ := front
      cases names with
      | nil => rfl
      | cons c names => exact absurd ⟨c :: names, List.cons_ne_nil c names, rfl⟩ nothing
    · rw [if_neg (by rwa [List.isPrefixOf_iff_prefix])]

theorem namesNodes_of_withoutReturn {line : List Char} (names : NamesNodes (withoutReturn line)) :
    NamesNodes line := by
  unfold withoutReturn at names
  split at names
  · rename_i ends
    obtain ⟨nodes, -, whole⟩ := names
    refine ⟨nodes ++ ['\r'], by simp, ?_⟩
    rw [← List.append_assoc, ← whole, List.dropLast_append_getLast? _ ends]
  · exact names

theorem addFailures_cons (s : FailureSignal) (line : List Char) (rest : List (List Char)) :
    s.addFailures (line :: rest) =
      match failedNodes? line with
      | none => s.addFailures rest
      | some nodes =>
        ((s.addNodes (nodes.map String.ofList)).addTargets
          (failedTargetsOf nodes (rest.head?.getD []))).addFailures rest := rfl

/-- Lines are read on from where others end, unless those end with a line that has to be followed by
a command. -/
theorem addFailures_append (s : FailureSignal) {before : List (List Char)}
    (after : List (List Char)) (clear : ∀ line ∈ before.getLast?, failedNodes? line = none) :
    s.addFailures (before ++ after) = (s.addFailures before).addFailures after := by
  induction before generalizing s with
  | nil => rfl
  | cons line rest ih =>
    cases rest with
    | nil =>
      have clear : failedNodes? line = none := clear line rfl
      rw [List.singleton_append, addFailures_cons, addFailures_cons, clear]
      rfl
    | cons next rest =>
      rw [List.cons_append, addFailures_cons, addFailures_cons]
      split
      · exact ih s clear
      · exact ih _ clear

theorem addFailures_append_congr {after after' : List (List Char)}
    (same : ∀ s, addFailures s after = addFailures s after')
    (command : ∀ nodes, failedTargetsOf nodes (after.head?.getD []) =
      failedTargetsOf nodes (after'.head?.getD []))
    (s : FailureSignal) (before : List (List Char)) :
    s.addFailures (before ++ after) = s.addFailures (before ++ after') := by
  induction before generalizing s with
  | nil => exact same s
  | cons line rest ih =>
    rw [List.cons_append, List.cons_append, addFailures_cons, addFailures_cons]
    cases rest with
    | nil => simp only [List.nil_append, command, same]
    | cons next rest => simp only [ih]; rfl

theorem addFailures_lines_join (s : FailureSignal) {a : List Char}
    (clear : ¬ NamesNodes (afterLast '\n' a)) (b : List Char) :
    s.addFailures (lines (a ++ '\n' :: b)) = (s.addFailures (lines a)).addFailures (lines b) := by
  have ended : failedNodes? (withoutReturn (afterLast '\n' a)) = none :=
    failedNodes?_eq_none_iff.mpr fun names => clear (namesNodes_of_withoutReturn names)
  have last := getLast?_splitAtEach '\n' a
  have pieces : (splitAtEach '\n' a).map withoutReturn =
      (splitAtEach '\n' a).dropLast.map withoutReturn ++ [withoutReturn (afterLast '\n' a)] := by
    rw [← List.map_singleton, ← List.map_append, List.dropLast_append_getLast? _ last]
  rw [lines_join, addFailures_append, pieces, lines_eq a]
  · congr 1
    -- An empty end of a text is no line of it, but the same as a line with nothing on it.
    refine addFailures_append_congr (fun s => ?_) (fun nodes => ?_) s _
    · rw [addFailures_cons, ended]
      show s = _
      split
      · rfl
      · rw [addFailures_cons, failedNodes?_eq_none_iff.mpr clear]
        rfl
    · rw [List.head?_cons, Option.getD_some, failedTargetsOf_withoutReturn]
      split
      · rename_i empty
        rw [List.isEmpty_iff.mp empty]
        rfl
      · rfl
  · rw [pieces]
    simpa using ended

theorem merge_addFiles (s t : FailureSignal) (log : List Char) :
    s.merge (t.addFiles log) = (s.merge t).addFiles log := by
  unfold addFiles
  refine (List.foldl_hom (s.merge ·) fun t m => ?_).symm
  split
  · exact (merge_addLines ..).symm
  · rfl

theorem merge_addNames (s t : FailureSignal) (log : List Char) :
    s.merge (t.addNames log) = (s.merge t).addNames log :=
  (List.foldl_hom (s.merge ·) fun _ _ => (merge_addMentions ..).symm).symm

theorem merge_addFailures (s t : FailureSignal) (lines : List (List Char)) :
    s.merge (t.addFailures lines) = (s.merge t).addFailures lines := by
  induction lines generalizing t with
  | nil => rfl
  | cons line rest ih =>
    rw [addFailures_cons, addFailures_cons]
    split
    · exact ih t
    · rw [ih, merge_addTargets, merge_addNodes]

theorem addFiles_addNames (s : FailureSignal) (log log' : List Char) :
    (s.addNames log').addFiles log = (s.addFiles log).addNames log' := by
  have one (s : FailureSignal) (keyword : String) (count : Nat) :
      (s.addMentions keyword count).addFiles log = (s.addFiles log).addMentions keyword count := by
    unfold addFiles
    refine List.foldl_hom (fun s : FailureSignal => s.addMentions keyword count) fun t m => ?_
    split <;> rfl
  exact (List.foldl_hom (fun s : FailureSignal => s.addFiles log) fun s m =>
    (one s (String.ofList m.text) 1).symm).symm

theorem addFiles_addFailures (s : FailureSignal) (log : List Char) (lines : List (List Char)) :
    (s.addFailures lines).addFiles log = (s.addFiles log).addFailures lines := by
  have one (s : FailureSignal) (nodes : List String) (targets : List FailedTarget) :
      ((s.addNodes nodes).addTargets targets).addFiles log =
        ((s.addFiles log).addNodes nodes).addTargets targets := by
    unfold addFiles
    refine List.foldl_hom (fun s : FailureSignal => (s.addNodes nodes).addTargets targets)
      fun t m => ?_
    split <;> rfl
  induction lines generalizing s with
  | nil => rfl
  | cons line rest ih =>
    rw [addFailures_cons, addFailures_cons]
    split
    · exact ih s
    · rw [ih, one]

theorem ofTestLog_join (a b : String) :
    ofTestLog (a ++ "\n" ++ b) = (ofTestLog a).merge (ofTestLog b) := by
  have text : (a ++ "\n" ++ b).toList = a.toList ++ '\n' :: b.toList := by simp
  unfold ofTestLog
  rw [text, addFiles_join, addNames_join, merge_addNames, merge_addFiles, merge_empty,
    addFiles_addNames]

theorem ofCompileLog_join {a : String} (clear : ¬ NamesNodes (afterLast '\n' a.toList))
    (b : String) :
    ofCompileLog (a ++ "\n" ++ b) = (ofCompileLog a).merge (ofCompileLog b) := by
  have text : (a ++ "\n" ++ b).toList = a.toList ++ '\n' :: b.toList := by simp
  unfold ofCompileLog
  rw [text, addFiles_join, addFailures_lines_join _ clear, merge_addFailures, merge_addFiles,
    merge_empty, addFiles_addFailures]

theorem foldl_merge_ofTestLog (log : String) (logs : List String) :
    (logs.map ofTestLog).foldl merge (ofTestLog log) =
      ofTestLog ("\n".intercalate (log :: logs)) := by
  induction logs generalizing log with
  | nil => rw [String.intercalate_singleton]; rfl
  | cons next rest ih =>
    rw [List.map_cons, List.foldl_cons, ← ofTestLog_join, ih, String.intercalate_cons_append,
      String.intercalate_cons_cons]

end FailureSignal

/-- The evidence that two logs give together is that of their joined text, for a test log always,
and for a compile log unless the first one breaks off after a line that names output nodes, whose
command the second one would start with. So the evidence on a step that ran tests is that of all its
logs, joined in the order of the names of the tests. -/
theorem FailureSignal.of_joined_logs :
    (∀ a b, ofTestLog (a ++ "\n" ++ b) = (ofTestLog a).merge (ofTestLog b)) ∧
    (∀ a b, ¬ NamesNodes (afterLast '\n' a.toList) →
      ofCompileLog (a ++ "\n" ++ b) = (ofCompileLog a).merge (ofCompileLog b)) ∧
    ∀ log : StepLog, (StepSignal.ofLog .test log).signal =
      ofTestLog ("\n".intercalate (log.log :: log.tests.values)) := by
  refine ⟨ofTestLog_join, fun a b clear => ofCompileLog_join clear b, fun log => ?_⟩
  rw [← foldl_merge_ofTestLog]
  show (log.tests.map fun _ text => ofTestLog text).values.foldl merge _ = _
  congr 1
  simp [SortedMap.values, SortedMap.map]

namespace Resumed

def first : String := "FAILED: obj/a.o\ncc -c ../src/a.cc -o obj/a.o\r"

def second : String := "../src/a.cc:3: error\nFAILED: obj/b obj/c\nld x"

def opening : String := "base/foo.cc:7 net::Read"

def closing : String := "base/bar.cc: net::Write\nbase/foo.cc:9 net::Read"

def ran : StepLog := ⟨"net/io.cc:3", .ofList [("Suite.B", closing), ("Suite.A", opening)]⟩

theorem reads_both : ¬ FailureSignal.NamesNodes (afterLast '\n' first.toList) ∧
    FailureSignal.ofCompileLog (first ++ "\n" ++ second) =
      (FailureSignal.ofCompileLog first).merge (FailureSignal.ofCompileLog second) ∧
    (FailureSignal.ofCompileLog (first ++ "\n" ++ second)).failedTargets =
      [⟨some "a.cc", "obj/a.o"⟩, ⟨none, "obj/b"⟩, ⟨none, "obj/c"⟩] ∧
    (FailureSignal.ofTestLog opening).merge (FailureSignal.ofTestLog closing) =
      { FailureSignal.empty with
        files := .ofList [("base/bar.cc", []), ("base/foo.cc", [7, 9])]
        keywords := .ofList [("net::Read", 2), ("net::Write", 1)] } ∧
    (StepSignal.ofLog .test ran).signal =
      { FailureSignal.empty with
        files := .ofList [("base/bar.cc", []), ("base/foo.cc", [7, 9]), ("net/io.cc", [3])]
        keywords := .ofList [("net::Read", 2), ("net::Write", 1)] } := by
  have clear : ¬ FailureSignal.NamesNodes (afterLast '\n' first.toList) :=
    FailureSignal.failedNodes?_eq_none_iff.mp (by decide +kernel)
  obtain ⟨tests, compiles, steps⟩ := FailureSignal.of_joined_logs
  refine ⟨clear, compiles first second clear, by decide +kernel, ?_, ?_⟩
  · rw [← tests]
    decide +kernel
  · rw [steps]
    decide +kernel

end Resumed

/-- A command that is cut off from the line before it is not read as its command. -/
example : FailureSignal.ofCompileLog ("FAILED: a.o" ++ "\n" ++ "cc -o b.o") ≠
    (FailureSignal.ofCompileLog "FAILED: a.o").merge (FailureSignal.ofCompileLog "cc -o b.o") := by
  decide +kernel

end CulpritFinding
