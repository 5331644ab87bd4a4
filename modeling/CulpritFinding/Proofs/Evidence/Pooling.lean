import CulpritFinding.Evidence
import CulpritFinding.Proofs.Evidence.Merging
import Mathlib.Algebra.BigOperators.Group.List.Basic
import Mathlib.Algebra.Ring.Nat
import Mathlib.Data.List.Nodup

namespace CulpritFinding

namespace FailureSignal

/-- Evidence that is put together out of nothing: mentions of files and keywords, output nodes,
targets that are not known yet, and other such evidence. -/
inductive Gathered : FailureSignal → Prop
  | empty : Gathered .empty
  | addFile {s : FailureSignal} (path : String) (line : Option Nat) (gathered : Gathered s) :
      Gathered (s.addFile path line)
  | addKeyword {s : FailureSignal} (keyword : String) (gathered : Gathered s) :
      Gathered (s.addKeyword keyword)
  | addNodes {s : FailureSignal} (nodes : List String) (gathered : Gathered s) :
      Gathered (s.addNodes nodes)
  | addTarget {s : FailureSignal} {target : FailedTarget} (new : target ∉ s.failedTargets)
      (gathered : Gathered s) : Gathered { s with failedTargets := s.failedTargets ++ [target] }
  | merge {s t : FailureSignal} (gathered : Gathered s) (gathered' : Gathered t) :
      Gathered (s.merge t)

structure Once (s : FailureSignal) : Prop where
  lines : ∀ {path lines}, s.files.get? path = some lines → lines.Nodup
  targets : s.failedTargets.Nodup

variable {s t : FailureSignal}

theorem Once.known (once : s.Once) (path : String) : ((s.files.get? path).getD []).Nodup := by
  cases found : s.files.get? path with
  | none => exact .nil
  | some lines => exact once.lines found

theorem Once.addFile (once : s.Once) (path : String) (line : Option Nat) :
    (s.addFile path line).Once where
  lines := by
    intro path' lines found
    unfold FailureSignal.addFile addLines at found
    rw [SortedMap.get?_upsert] at found
    split at found
    · cases found
      exact nodup_appendNew (once.known path') _
    · exact once.lines found
  targets := once.targets

theorem Once.merge (once : s.Once) (t : FailureSignal) : (s.merge t).Once where
  lines := by
    intro path lines found
    rw [merge_eq, SortedMap.get?_combine, Option.or_eq_some_iff] at found
    rcases found with found | ⟨-, known⟩
    · obtain ⟨more, -, rfl⟩ := Option.map_eq_some_iff.mp found
      exact nodup_appendNew (once.known path) more
    · exact once.lines known
  targets := by
    rw [merge_eq]
    exact nodup_appendNew once.targets _

theorem Gathered.once (gathered : s.Gathered) : s.Once := by
  induction gathered with
  | empty => exact ⟨nofun, .nil⟩
  | addFile path line _ once => exact once.addFile path line
  | addKeyword _ _ once => exact ⟨once.lines, once.targets⟩
  | addNodes _ _ once => exact ⟨once.lines, once.targets⟩
  | @addTarget s target new _ once =>
    refine ⟨once.lines, ?_⟩
    rw [← List.concat_eq_append]
    exact .concat new once.targets
  | @merge s t _ _ once _ => exact once.merge t

theorem Gathered.addTargets (gathered : s.Gathered) (targets : List FailedTarget) :
    (s.addTargets targets).Gathered := by
  induction targets generalizing s with
  | nil => exact gathered
  | cons target rest ih =>
    show FailureSignal.Gathered { s with
      failedTargets := appendNew (if target ∈ s.failedTargets then s.failedTargets
        else s.failedTargets ++ [target]) rest }
    split
    · exact ih gathered
    · rename_i new
      exact ih (gathered.addTarget new)

theorem Gathered.addFiles (gathered : s.Gathered) (log : List Char) :
    (s.addFiles log).Gathered := by
  unfold FailureSignal.addFiles
  induction LogPattern.fileReference.findAll log generalizing s with
  | nil => exact gathered
  | cons m rest ih =>
    rw [List.foldl_cons]
    apply ih
    split
    · exact gathered.addFile ..
    · exact gathered

theorem Gathered.addNames (gathered : s.Gathered) (log : List Char) :
    (s.addNames log).Gathered := by
  unfold FailureSignal.addNames
  induction LogPattern.qualifiedName.findAll log generalizing s with
  | nil => exact gathered
  | cons m rest ih => exact ih (gathered.addKeyword _)

theorem Gathered.addFailures (gathered : s.Gathered) (lines : List (List Char)) :
    (s.addFailures lines).Gathered := by
  induction lines generalizing s with
  | nil => exact gathered
  | cons line rest ih =>
    unfold FailureSignal.addFailures
    split
    · exact ih gathered
    · exact ih ((gathered.addNodes _).addTargets _)

theorem gathered_ofCompileLog (log : String) : (ofCompileLog log).Gathered :=
  (Gathered.empty.addFiles _).addFailures _

theorem gathered_ofTestLog (log : String) : (ofTestLog log).Gathered :=
  (Gathered.empty.addFiles _).addNames _

theorem Once.empty_merge (once : s.Once) : empty.merge s = s := by
  rw [merge_eq]
  congr 1
  · refine SortedMap.empty_combine fun path lines found => ?_
    exact appendNew_of_nodup (once.lines found)
  · exact SortedMap.empty_combine fun keyword count _ => Nat.zero_add count
  · exact s.failedOutputNodes.ofList_toList
  · exact appendNew_of_nodup once.targets

def mergeAll (signals : List FailureSignal) : FailureSignal := signals.foldl merge empty

theorem Gathered.mergeAll {signals : List FailureSignal}
    (gathered : ∀ s ∈ signals, s.Gathered) : (mergeAll signals).Gathered := by
  unfold FailureSignal.mergeAll
  have merged (s : FailureSignal) (start : s.Gathered) : (signals.foldl .merge s).Gathered := by
    induction signals generalizing s with
    | nil => exact start
    | cons t rest ih =>
      obtain ⟨first, others⟩ := List.forall_mem_cons.mp gathered
      exact ih others _ (start.merge first)
  exact merged _ .empty

theorem mergeAll_iff (shows : FailureSignal → Prop)
    (merged : ∀ s t, shows (s.merge t) ↔ shows s ∨ shows t) (nothing : ¬ shows empty)
    (signals : List FailureSignal) :
    shows (mergeAll signals) ↔ ∃ t ∈ signals, shows t := by
  have folded (s : FailureSignal) :
      shows (signals.foldl merge s) ↔ shows s ∨ ∃ t ∈ signals, shows t := by
    induction signals generalizing s with
    | nil => simp
    | cons t rest ih => rw [List.foldl_cons, ih, merged, List.exists_mem_cons_iff, or_assoc]
  exact (folded empty).trans (or_iff_right nothing)

theorem mergeAll_sum (count : FailureSignal → Nat)
    (merged : ∀ s t, count (s.merge t) = count s + count t) (nothing : count empty = 0)
    (signals : List FailureSignal) :
    count (mergeAll signals) = (signals.map count).sum := by
  have folded (s : FailureSignal) :
      count (signals.foldl merge s) = count s + (signals.map count).sum := by
    induction signals generalizing s with
    | nil => simp
    | cons t rest ih =>
      rw [List.foldl_cons, ih, merged, List.map_cons, List.sum_cons, Nat.add_assoc]
  exact (folded empty).trans (by rw [nothing, Nat.zero_add])

def HasFile (s : FailureSignal) (path : String) : Prop := (s.files.get? path).isSome

def HasLine (s : FailureSignal) (path : String) (line : Nat) : Prop :=
  ∃ lines, s.files.get? path = some lines ∧ line ∈ lines

def HasKeyword (s : FailureSignal) (keyword : String) : Prop := (s.keywords.get? keyword).isSome

def mentions (s : FailureSignal) (keyword : String) : Nat := (s.keywords.get? keyword).getD 0

theorem hasFile_merge (path : String) (s t : FailureSignal) :
    (s.merge t).HasFile path ↔ s.HasFile path ∨ t.HasFile path := by
  unfold HasFile
  rw [merge_eq, SortedMap.get?_combine]
  cases t.files.get? path <;> simp

theorem hasLine_merge (path : String) (line : Nat) (s t : FailureSignal) :
    (s.merge t).HasLine path line ↔ s.HasLine path line ∨ t.HasLine path line := by
  unfold HasLine
  rw [merge_eq, SortedMap.get?_combine]
  cases t.files.get? path with
  | none => simp
  | some more => cases s.files.get? path <;> simp [mem_appendNew]

theorem hasKeyword_merge (keyword : String) (s t : FailureSignal) :
    (s.merge t).HasKeyword keyword ↔ s.HasKeyword keyword ∨ t.HasKeyword keyword := by
  unfold HasKeyword
  rw [merge_eq, SortedMap.get?_combine]
  cases t.keywords.get? keyword <;> simp

theorem mentions_merge (keyword : String) (s t : FailureSignal) :
    (s.merge t).mentions keyword = s.mentions keyword + t.mentions keyword := by
  unfold mentions
  rw [merge_eq, SortedMap.get?_combine]
  cases t.keywords.get? keyword <;> simp

theorem mem_nodes_merge (node : String) (s t : FailureSignal) :
    node ∈ (s.merge t).failedOutputNodes.toList ↔
      node ∈ s.failedOutputNodes.toList ∨ node ∈ t.failedOutputNodes.toList := by
  rw [merge_eq, SortedSet.mem_insertAll, or_comm]

theorem mem_targets_merge (target : FailedTarget) (s t : FailureSignal) :
    target ∈ (s.merge t).failedTargets ↔ target ∈ s.failedTargets ∨ target ∈ t.failedTargets := by
  rw [merge_eq, mem_appendNew]

/-- Evidence shows what some of several signals show, and has every keyword as often as they have it
together. -/
structure Pools (signals : List FailureSignal) (s : FailureSignal) : Prop where
  files : ∀ path, s.HasFile path ↔ ∃ t ∈ signals, t.HasFile path
  lines : ∀ path line, s.HasLine path line ↔ ∃ t ∈ signals, t.HasLine path line
  keywords : ∀ keyword, s.HasKeyword keyword ↔ ∃ t ∈ signals, t.HasKeyword keyword
  mentions : ∀ keyword, s.mentions keyword = (signals.map (·.mentions keyword)).sum
  nodes : ∀ node, node ∈ s.failedOutputNodes.toList ↔
    ∃ t ∈ signals, node ∈ t.failedOutputNodes.toList
  targets : ∀ target, target ∈ s.failedTargets ↔ ∃ t ∈ signals, target ∈ t.failedTargets

theorem pools_mergeAll (signals : List FailureSignal) : Pools signals (mergeAll signals) where
  files path := mergeAll_iff (·.HasFile path) (hasFile_merge path) Bool.false_ne_true signals
  lines path line := mergeAll_iff (·.HasLine path line) (hasLine_merge path line)
    (fun ⟨_, listed, _⟩ => nomatch listed) signals
  keywords keyword := mergeAll_iff (·.HasKeyword keyword) (hasKeyword_merge keyword)
    Bool.false_ne_true signals
  mentions keyword := mergeAll_sum (·.mentions keyword) (mentions_merge keyword) rfl signals
  nodes node := mergeAll_iff (node ∈ ·.failedOutputNodes.toList) (mem_nodes_merge node)
    List.not_mem_nil signals
  targets target := mergeAll_iff (target ∈ ·.failedTargets) (mem_targets_merge target)
    List.not_mem_nil signals

theorem Pools.of_perm {signals signals' : List FailureSignal} (pools : Pools signals s)
    (perm : signals.Perm signals') : Pools signals' s where
  files path := by simp only [pools.files, perm.mem_iff]
  lines path line := by simp only [pools.lines, perm.mem_iff]
  keywords keyword := by simp only [pools.keywords, perm.mem_iff]
  mentions keyword := by rw [pools.mentions, (perm.map _).sum_eq]
  nodes node := by simp only [pools.nodes, perm.mem_iff]
  targets target := by simp only [pools.targets, perm.mem_iff]

structure Alike (s t : FailureSignal) : Prop where
  files : ∀ path, Option.Rel List.Perm (s.files.get? path) (t.files.get? path)
  keywords : s.keywords = t.keywords
  nodes : s.failedOutputNodes = t.failedOutputNodes
  targets : s.failedTargets.Perm t.failedTargets

theorem Pools.alike {signals : List FailureSignal} (pools : Pools signals s)
    (pools' : Pools signals t) (once : s.Once) (once' : t.Once) : s.Alike t where
  files := by
    intro path
    have listed := (pools.files path).trans (pools'.files path).symm
    have cited (line : Nat) := (pools.lines path line).trans (pools'.lines path line).symm
    unfold HasFile at listed
    unfold HasLine at cited
    cases found : s.files.get? path with
    | none =>
      cases found' : t.files.get? path with
      | none => exact .none
      | some lines' => simp [found, found'] at listed
    | some lines =>
      cases found' : t.files.get? path with
      | none => simp [found, found'] at listed
      | some lines' =>
        refine .some ((List.perm_ext_iff_of_nodup (once.lines found) (once'.lines found')).mpr ?_)
        simpa [found, found'] using cited
  keywords := by
    refine SortedMap.ext_get? fun keyword => ?_
    have named := (pools.keywords keyword).trans (pools'.keywords keyword).symm
    have counted := (pools.mentions keyword).trans (pools'.mentions keyword).symm
    unfold HasKeyword at named
    unfold FailureSignal.mentions at counted
    cases found : s.keywords.get? keyword <;> cases found' : t.keywords.get? keyword <;>
      simp_all
  nodes := SortedSet.ext_mem fun node => (pools.nodes node).trans (pools'.nodes node).symm
  targets := (List.perm_ext_iff_of_nodup once.targets once'.targets).mpr fun target =>
    (pools.targets target).trans (pools'.targets target).symm

theorem mentions_mergeAll_le {first signals : List FailureSignal} (begins : first <+: signals)
    (keyword : String) :
    (mergeAll first).mentions keyword ≤ (mergeAll signals).mentions keyword := by
  obtain ⟨rest, rfl⟩ := begins
  rw [(pools_mergeAll first).mentions, (pools_mergeAll (first ++ rest)).mentions, List.map_append,
    List.sum_append]
  exact Nat.le_add_right ..

/-- Evidence that is put together out of nothing has no line and no target twice, and is a monoid
under merging. Merged in any order, several signals come to the same evidence, but for the order of
lines and targets: what some of them show, and every keyword as often as they have it together. On
the way no count is above this sum, so that counts which fit at the end have fitted all along. -/
theorem Gathered.merge_monoid (gathered : s.Gathered) (t u : FailureSignal)
    {signals signals' : List FailureSignal} (gathered' : ∀ s ∈ signals, s.Gathered)
    (perm : signals.Perm signals') :
    s.Once ∧ (s.merge t).merge u = s.merge (t.merge u) ∧
      FailureSignal.empty.merge s = s ∧ s.merge .empty = s ∧
      Pools signals (FailureSignal.mergeAll signals) ∧
      (FailureSignal.mergeAll signals).Alike (FailureSignal.mergeAll signals') ∧
      ∀ first, first <+: signals' → ∀ keyword,
        (FailureSignal.mergeAll first).mentions keyword ≤
          (FailureSignal.mergeAll signals).mentions keyword := by
  have once := gathered.once
  have pools := pools_mergeAll signals
  have pools' := (pools_mergeAll signals').of_perm perm.symm
  have first := (Gathered.mergeAll gathered').once
  have second : (FailureSignal.mergeAll signals').Once :=
    (Gathered.mergeAll fun s member => gathered' s (perm.mem_iff.mpr member)).once
  refine ⟨once, merge_assoc s t u, once.empty_merge, merge_empty s, pools,
    pools.alike pools' first second, fun first begins keyword => ?_⟩
  rw [pools.mentions keyword, ← pools'.mentions keyword]
  exact mentions_mergeAll_le begins keyword

end FailureSignal

namespace Reordered

def signals : List FailureSignal :=
  [.ofTestLog "base/foo.cc:10 net::Read", .ofTestLog "base/foo.cc:12 base/foo.cc:10 net::Read",
    .ofCompileLog "FAILED: chrome\nld -o chrome"]

theorem gathered : ∀ s ∈ signals, s.Gathered := by
  unfold signals
  simp only [List.forall_mem_cons, List.not_mem_nil, false_implies, implies_true, and_true]
  exact ⟨FailureSignal.gathered_ofTestLog _, FailureSignal.gathered_ofTestLog _,
    FailureSignal.gathered_ofCompileLog _⟩

theorem merged_backwards :
    signals.Perm signals.reverse ∧
      (FailureSignal.mergeAll signals).Alike (FailureSignal.mergeAll signals.reverse) ∧
      (FailureSignal.mergeAll signals).files.get? "base/foo.cc" = some [10, 12] ∧
      (FailureSignal.mergeAll signals.reverse).files.get? "base/foo.cc" = some [12, 10] ∧
      (FailureSignal.mergeAll signals.reverse).mentions "net::Read" = 2 ∧
      (FailureSignal.mergeAll signals).failedOutputNodes.toList = ["chrome"] ∧
      (FailureSignal.mergeAll signals.reverse).failedTargets = [⟨none, "chrome"⟩] := by
  have perm : signals.Perm signals.reverse := signals.reverse_perm.symm
  have start := FailureSignal.gathered_ofTestLog "base/foo.cc:10 net::Read"
  obtain ⟨-, -, -, -, -, alike, -⟩ := start.merge_monoid .empty .empty gathered perm
  exact ⟨perm, alike, by decide +kernel, by decide +kernel, by decide +kernel, by decide +kernel,
    by decide +kernel⟩

end Reordered

end CulpritFinding
