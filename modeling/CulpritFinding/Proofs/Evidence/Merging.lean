import CulpritFinding.Failure.Signal
import Mathlib.Data.List.Nodup

namespace CulpritFinding

section

variable {α : Type} [DecidableEq α]

theorem appendNew_append (xs ys zs : List α) :
    appendNew xs (ys ++ zs) = appendNew (appendNew xs ys) zs :=
  List.foldl_append

theorem appendNew_singleton (xs : List α) (x : α) :
    appendNew xs [x] = if x ∈ xs then xs else xs ++ [x] := rfl

theorem mem_appendNew {xs ys : List α} {x : α} : x ∈ appendNew xs ys ↔ x ∈ xs ∨ x ∈ ys := by
  induction ys generalizing xs with
  | nil => simp [appendNew]
  | cons y ys ih =>
    show x ∈ appendNew (if y ∈ xs then xs else xs ++ [y]) ys ↔ _
    rw [ih]
    split
    · rename_i known
      rw [List.mem_cons]
      exact ⟨Or.imp_right .inr, fun listed => listed.elim .inl fun
        | .inl same => .inl (same ▸ known)
        | .inr later => .inr later⟩
    · rw [List.mem_append, List.mem_singleton, List.mem_cons, or_assoc]

theorem appendNew_assoc (xs ys zs : List α) :
    appendNew (appendNew xs ys) zs = appendNew xs (appendNew ys zs) := by
  induction zs generalizing ys with
  | nil => rfl
  | cons z zs ih =>
    have one : appendNew (appendNew xs ys) [z] = appendNew xs (appendNew ys [z]) := by
      rw [appendNew_singleton ys]
      split
      · rename_i known
        rw [appendNew_singleton, if_pos (mem_appendNew.mpr (.inr known))]
      · rw [appendNew_append]
    calc appendNew (appendNew xs ys) (z :: zs)
        = appendNew (appendNew (appendNew xs ys) [z]) zs := appendNew_append _ [z] zs
      _ = appendNew (appendNew xs (appendNew ys [z])) zs := by rw [one]
      _ = appendNew xs (appendNew (appendNew ys [z]) zs) := ih _
      _ = appendNew xs (appendNew ys (z :: zs)) := by rw [← appendNew_append]; rfl

theorem appendNew_of_nodup {xs ys : List α} (distinct : (xs ++ ys).Nodup) :
    appendNew xs ys = xs ++ ys := by
  induction ys generalizing xs with
  | nil => exact (List.append_nil xs).symm
  | cons y ys ih =>
    have new : y ∉ xs := fun known =>
      (List.nodup_append.mp distinct).2.2 y known y List.mem_cons_self rfl
    rw [List.append_cons] at distinct ⊢
    rw [← ih distinct]
    show appendNew (if y ∈ xs then xs else xs ++ [y]) ys = _
    rw [if_neg new]

theorem nodup_appendNew {xs : List α} (distinct : xs.Nodup) (ys : List α) :
    (appendNew xs ys).Nodup := by
  induction ys generalizing xs with
  | nil => exact distinct
  | cons y ys ih =>
    show (appendNew (if y ∈ xs then xs else xs ++ [y]) ys).Nodup
    split
    · exact ih distinct
    · rename_i new
      rw [← List.concat_eq_append]
      exact ih (.concat new distinct)

theorem appendNew_through (known other : Option (List α)) (more : List α) :
    appendNew (known.getD []) (appendNew (other.getD []) more) =
      appendNew (((other.map (appendNew (known.getD []))).or known).getD []) more := by
  rw [← appendNew_assoc]
  cases other <;> rfl

end

theorem add_through (known other : Option Nat) (more : Nat) :
    known.getD 0 + (other.getD 0 + more) =
      ((other.map (known.getD 0 + ·)).or known).getD 0 + more := by
  rw [← Nat.add_assoc]
  cases other <;> rfl

namespace SortedMap

variable {κ ν : Type} [SortKey κ] [DecidableEq κ]

def combine (f : Option ν → ν → ν) (m other : SortedMap κ ν) : SortedMap κ ν :=
  other.toList.foldl (fun m e => m.upsert e.1 fun known => f known e.2) m

theorem get?_combine (f : Option ν → ν → ν) (m other : SortedMap κ ν) (key : κ) :
    (m.combine f other).get? key =
      ((other.get? key).map (f (m.get? key))).or (m.get? key) := by
  have added (entries : List (κ × ν)) (unique : (entries.map (·.1)).Nodup) (m : SortedMap κ ν) :
      (entries.foldl (fun m e => m.upsert e.1 fun known => f known e.2) m).get? key =
        (((entries.find? fun e => e.1 = key).map (·.2)).map (f (m.get? key))).or (m.get? key) := by
    induction entries generalizing m with
    | nil => rfl
    | cons e rest ih =>
      rw [List.map_cons, List.nodup_cons] at unique
      rw [List.foldl_cons, ih unique.2, get?_upsert]
      by_cases same : e.1 = key
      · have absent : (rest.find? fun e' => e'.1 = key) = none := by
          refine List.find?_eq_none.mpr fun e' member clash => unique.1 ?_
          rw [same, ← of_decide_eq_true clash]
          exact List.mem_map_of_mem member
        simp [same, absent]
      · simp [same]
  exact added other.toList other.nodup_keys m

theorem combine_upsert {f : Option ν → ν → ν} {change : Option ν → ν}
    (through : ∀ known other, f known (change other) = change ((other.map (f known)).or known))
    (m other : SortedMap κ ν) (key : κ) :
    m.combine f (other.upsert key change) = (m.combine f other).upsert key change := by
  refine ext_get? fun key' => ?_
  simp only [get?_combine, get?_upsert]
  split
  · rw [Option.map_some, Option.some_or, through]
  · rfl

theorem combine_assoc {f : Option ν → ν → ν}
    (through : ∀ known other value,
      f known (f other value) = f ((other.map (f known)).or known) value)
    (m m' m'' : SortedMap κ ν) :
    (m.combine f m').combine f m'' = m.combine f (m'.combine f m'') := by
  refine ext_get? fun key => ?_
  simp only [get?_combine]
  cases m''.get? key with
  | none => rfl
  | some value => exact congrArg some (through ..).symm

theorem empty_combine {f : Option ν → ν → ν} {m : SortedMap κ ν}
    (kept : ∀ key value, m.get? key = some value → f none value = value) :
    empty.combine f m = m := by
  refine ext_get? fun key => ?_
  rw [get?_combine, get?_empty, Option.or_none]
  cases found : m.get? key with
  | none => rfl
  | some value => exact congrArg some (kept key value found)

end SortedMap

namespace FailureSignal

theorem merge_eq (s t : FailureSignal) :
    s.merge t =
      ⟨s.files.combine (fun known lines => appendNew (known.getD []) lines) t.files,
        s.keywords.combine (fun known count => known.getD 0 + count) t.keywords,
        s.failedOutputNodes.insertAll t.failedOutputNodes.toList,
        appendNew s.failedTargets t.failedTargets⟩ := by
  have files (entries : List (String × List Nat)) (s : FailureSignal) :
      entries.foldl (fun s e => s.addLines e.1 e.2) s =
        ⟨entries.foldl (fun m e => m.upsert e.1 fun known => appendNew (known.getD []) e.2) s.files,
          s.keywords, s.failedOutputNodes, s.failedTargets⟩ := by
    induction entries generalizing s with
    | nil => rfl
    | cons e rest ih => exact ih _
  have keywords (entries : List (String × Nat)) (s : FailureSignal) :
      entries.foldl (fun s e => s.addMentions e.1 e.2) s =
        ⟨s.files,
          entries.foldl (fun m e => m.upsert e.1 fun known => known.getD 0 + e.2) s.keywords,
          s.failedOutputNodes, s.failedTargets⟩ := by
    induction entries generalizing s with
    | nil => rfl
    | cons e rest ih => exact ih _
  unfold merge
  simp only [files, keywords]
  rfl

theorem merge_empty (s : FailureSignal) : s.merge empty = s := rfl

theorem merge_addLines (s t : FailureSignal) (path : String) (lines : List Nat) :
    s.merge (t.addLines path lines) = (s.merge t).addLines path lines := by
  rw [merge_eq, merge_eq]
  unfold addLines
  congr 1
  exact SortedMap.combine_upsert (appendNew_through · · lines) ..

theorem merge_addMentions (s t : FailureSignal) (keyword : String) (count : Nat) :
    s.merge (t.addMentions keyword count) = (s.merge t).addMentions keyword count := by
  rw [merge_eq, merge_eq]
  unfold addMentions
  congr 1
  exact SortedMap.combine_upsert (add_through · · count) ..

theorem merge_addNodes (s t : FailureSignal) (nodes : List String) :
    s.merge (t.addNodes nodes) = (s.merge t).addNodes nodes := by
  rw [merge_eq, merge_eq]
  unfold addNodes
  congr 1
  refine SortedSet.ext_mem fun node => ?_
  simp only [SortedSet.mem_insertAll, or_assoc]

theorem merge_addTargets (s t : FailureSignal) (targets : List FailedTarget) :
    s.merge (t.addTargets targets) = (s.merge t).addTargets targets := by
  rw [merge_eq, merge_eq]
  unfold addTargets
  rw [appendNew_assoc]

theorem merge_assoc (s t u : FailureSignal) : (s.merge t).merge u = s.merge (t.merge u) := by
  simp only [merge_eq]
  congr 1
  · exact SortedMap.combine_assoc appendNew_through ..
  · exact SortedMap.combine_assoc add_through ..
  · refine SortedSet.ext_mem fun node => ?_
    rw [SortedSet.mem_insertAll, SortedSet.mem_insertAll, SortedSet.mem_insertAll,
      SortedSet.mem_insertAll, or_assoc]
  · exact appendNew_assoc ..

end FailureSignal

end CulpritFinding
