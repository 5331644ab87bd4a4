import CulpritFinding.Text.Lines
import Mathlib.Data.List.Basic
import Mathlib.Data.List.TakeWhile

namespace CulpritFinding

theorem splitAtEach_eq_splitOn (separator : Char) (cs : List Char) :
    splitAtEach separator cs = cs.splitOn separator := by
  unfold List.splitOn
  induction cs with
  | nil => rfl
  | cons c cs ih =>
    obtain ⟨piece, rest, pieces⟩ :=
      List.exists_cons_of_ne_nil (List.splitOnP_ne_nil (fun c => c == separator) cs)
    unfold splitAtEach at ih ⊢
    rw [List.foldr_cons, ih, List.splitOnP_cons_eq_if_modifyHead, pieces]
    by_cases same : c = separator <;> simp [same]

theorem splitAtEach_ne_nil (separator : Char) (cs : List Char) : splitAtEach separator cs ≠ [] := by
  rw [splitAtEach_eq_splitOn]
  exact List.splitOnP_ne_nil _ cs

theorem splitAtEach_append (separator : Char) (before after : List Char) :
    splitAtEach separator (before ++ separator :: after) =
      splitAtEach separator before ++ splitAtEach separator after := by
  simp only [splitAtEach_eq_splitOn]
  exact List.splitOnP_append_cons _ _ (beq_self_eq_true separator)

theorem intercalate_splitAtEach (separator : Char) (cs : List Char) :
    [separator].intercalate (splitAtEach separator cs) = cs := by
  rw [splitAtEach_eq_splitOn]
  exact List.intercalate_splitOn separator

theorem splitAtEach_intercalate {separator : Char} {pieces : List (List Char)}
    (apart : ∀ piece ∈ pieces, separator ∉ piece) (something : pieces ≠ []) :
    splitAtEach separator ([separator].intercalate pieces) = pieces := by
  rw [splitAtEach_eq_splitOn]
  exact List.splitOn_intercalate separator apart something

theorem not_mem_of_mem_splitAtEach {separator : Char} {cs piece : List Char}
    (member : piece ∈ splitAtEach separator cs) : separator ∉ piece := by
  rw [splitAtEach_eq_splitOn] at member
  unfold List.splitOn at member
  induction cs generalizing piece with
  | nil =>
    rw [List.splitOnP_nil, List.mem_singleton] at member
    exact member ▸ List.not_mem_nil
  | cons c cs ih =>
    obtain ⟨first, rest, pieces⟩ :=
      List.exists_cons_of_ne_nil (List.splitOnP_ne_nil (fun c => c == separator) cs)
    rw [List.splitOnP_cons_eq_if_modifyHead] at member
    split at member
    · rcases List.mem_cons.mp member with rfl | later
      · exact List.not_mem_nil
      · exact ih later
    · rename_i other
      rw [pieces, List.modifyHead_cons] at member
      rcases List.mem_cons.mp member with rfl | later
      · have own := ih (pieces ▸ List.mem_cons_self : first ∈ _)
        simpa [own] using fun same : separator = c => other (by simp [same])
      · exact ih (pieces ▸ List.mem_cons_of_mem _ later)

theorem splitAtEach_of_not_mem {separator : Char} {cs : List Char} (apart : separator ∉ cs) :
    splitAtEach separator cs = [cs] := by
  have pieces : splitAtEach separator ([separator].intercalate [cs]) = [cs] :=
    splitAtEach_intercalate (by simpa using apart) (List.cons_ne_nil _ _)
  rwa [List.intercalate_singleton] at pieces

theorem exists_last_separator {separator : Char} {cs : List Char} (member : separator ∈ cs) :
    ∃ front back, cs = front ++ separator :: back ∧ separator ∉ back := by
  obtain ⟨back, front, whole, apart⟩ := List.eq_append_cons_of_mem (List.mem_reverse.mpr member)
  refine ⟨front.reverse, back.reverse, ?_, fun member => apart (List.mem_reverse.mp member)⟩
  rw [← List.reverse_reverse cs, whole]
  simp

theorem afterLast_of_not_mem {separator : Char} {cs : List Char} (apart : separator ∉ cs) :
    afterLast separator cs = cs := by
  unfold afterLast
  rw [List.takeWhile_eq_self_iff.mpr, List.reverse_reverse]
  intro c member
  exact bne_iff_ne.mpr fun same => apart (same ▸ List.mem_reverse.mp member)

theorem afterLast_append {separator : Char} {back : List Char} (apart : separator ∉ back)
    (front : List Char) : afterLast separator (front ++ separator :: back) = back := by
  have inside : ∀ c ∈ back.reverse, (c != separator) = true := fun c member =>
    bne_iff_ne.mpr fun same => apart (same ▸ List.mem_reverse.mp member)
  unfold afterLast
  rw [List.reverse_append, List.reverse_cons, List.append_assoc,
    List.takeWhile_append_of_pos inside]
  simp

theorem getLast?_splitAtEach (separator : Char) (cs : List Char) :
    (splitAtEach separator cs).getLast? = some (afterLast separator cs) := by
  by_cases member : separator ∈ cs
  · obtain ⟨front, back, rfl, apart⟩ := exists_last_separator member
    rw [splitAtEach_append, splitAtEach_of_not_mem apart, afterLast_append apart]
    simp
  · rw [splitAtEach_of_not_mem member, afterLast_of_not_mem member]
    rfl

theorem lines_eq (cs : List Char) :
    lines cs = (splitAtEach '\n' cs).dropLast.map withoutReturn ++
      if (afterLast '\n' cs).isEmpty then [] else [afterLast '\n' cs] := by
  unfold lines
  simp only [getLast?_splitAtEach, Option.getD_some]

/-- The lines of two joined texts are the lines of both, but for the end of the first one, which has
become the end of a line. -/
theorem lines_join (a b : List Char) :
    lines (a ++ '\n' :: b) = (splitAtEach '\n' a).map withoutReturn ++ lines b := by
  have some_ := splitAtEach_ne_nil '\n' b
  have last : afterLast '\n' (a ++ '\n' :: b) = afterLast '\n' b := by
    rw [← Option.some_inj, ← getLast?_splitAtEach, ← getLast?_splitAtEach, splitAtEach_append,
      List.getLast?_append_of_ne_nil _ some_]
  rw [lines_eq, lines_eq b, last, splitAtEach_append, List.dropLast_append_of_ne_nil some_,
    List.map_append, List.append_assoc]

theorem splitAtLast?_of_not_mem {separator : Char} {cs : List Char} (apart : separator ∉ cs) :
    splitAtLast? separator cs = none := by
  have inside : ∀ c ∈ cs.reverse, (c != separator) = true := fun c member =>
    bne_iff_ne.mpr fun same => apart (same ▸ List.mem_reverse.mp member)
  unfold splitAtLast?
  rw [List.dropWhile_eq_nil_iff.mpr inside]

theorem splitAtLast?_append {separator : Char} {back : List Char} (apart : separator ∉ back)
    (front : List Char) :
    splitAtLast? separator (front ++ separator :: back) = some (front, back) := by
  have inside : ∀ c ∈ back.reverse, (c != separator) = true := fun c member =>
    bne_iff_ne.mpr fun same => apart (same ▸ List.mem_reverse.mp member)
  unfold splitAtLast?
  rw [afterLast_append apart, List.reverse_append, List.reverse_cons, List.append_assoc,
    List.dropWhile_append_of_pos inside]
  simp

end CulpritFinding
