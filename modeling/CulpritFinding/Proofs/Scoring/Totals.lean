import CulpritFinding.Proofs.Scoring.Reasons
import Mathlib.Algebra.BigOperators.Group.Finset.Basic
import Mathlib.Algebra.Order.BigOperators.Group.Finset

namespace CulpritFinding

namespace Hints

theorem score_eq_sum (h : Hints) : h.score = ∑ key ∈ h.keys.toFinset, (h.get? key).getD 0 := by
  have values : h.values = h.keys.map fun key => (h.get? key).getD 0 := by
    unfold SortedMap.values SortedMap.keys
    rw [List.map_map]
    apply List.map_congr_left
    intro e member
    simp [SortedMap.get?_eq_some.mpr member]
  rw [List.sum_toFinset _ h.nodup_keys, ← values]
  rfl

theorem score_le {h h' : Hints} (next : String → String)
    (heavier : ∀ text weight, h.get? text = some weight →
      ∃ weight', h'.get? (next text) = some weight' ∧ weight ≤ weight')
    (apart : ∀ text weight text' weight', h.get? text = some weight →
      h.get? text' = some weight' → next text = next text' → text = text') :
    h.score ≤ h'.score := by
  have listed {h : Hints} {text : String} :
      text ∈ h.keys.toFinset ↔ ∃ weight, h.get? text = some weight := by
    simp [SortedMap.keys, SortedMap.get?_eq_some]
  have once : Set.InjOn next h.keys.toFinset := by
    intro text member text' member' same
    obtain ⟨weight, known⟩ := listed.mp member
    obtain ⟨weight', known'⟩ := listed.mp member'
    exact apart _ _ _ _ known known' same
  calc h.score = ∑ text ∈ h.keys.toFinset, (h.get? text).getD 0 := score_eq_sum h
    _ ≤ ∑ text ∈ h.keys.toFinset, (h'.get? (next text)).getD 0 := by
      apply Finset.sum_le_sum
      intro text member
      obtain ⟨weight, known⟩ := listed.mp member
      obtain ⟨weight', known', most⟩ := heavier text weight known
      simpa [known, known'] using most
    _ = ∑ text ∈ h.keys.toFinset.image next, (h'.get? text).getD 0 := by
      rw [Finset.sum_image once]
    _ ≤ ∑ text ∈ h'.keys.toFinset, (h'.get? text).getD 0 := by
      apply Finset.sum_le_sum_of_subset
      intro text member
      obtain ⟨before, member', rfl⟩ := Finset.mem_image.mp member
      obtain ⟨weight, known⟩ := listed.mp member'
      obtain ⟨weight', known', -⟩ := heavier before weight known
      exact listed.mpr ⟨weight', known'⟩
    _ = h'.score := (score_eq_sum h').symm

theorem get?_add (h : Hints) (reason text : String) (weight : Nat) :
    (h.add reason weight).get? text = (h.get? text).or
      (if reason = text ∧ weight ≠ 0 then some weight else none) := by
  unfold add
  rw [SortedMap.contains_eq_isSome]
  by_cases none : weight = 0
  · simp [none]
  · by_cases own : reason = text
    · subst own
      cases known : h.get? reason <;> simp [known, none, SortedMap.get?_insert]
    · cases h.get? reason <;> simp [none, own, SortedMap.get?_insert]

/-- Of the reasons with a text, the first one that weighs something counts. -/
theorem get?_ofReasons (w : HintWeights) (reasons : List Reason) (text : String) :
    (ofReasons w reasons).get? text =
      (reasons.find? fun r => r.text = text ∧ r.weight w ≠ 0).map (·.weight w) := by
  have added : ∀ h : Hints, (reasons.foldl (fun h r => h.add r.text (r.weight w)) h).get? text =
      (h.get? text).or
        ((reasons.find? fun r => r.text = text ∧ r.weight w ≠ 0).map (·.weight w)) := by
    induction reasons with
    | nil => simp
    | cons r rest ih =>
      intro h
      rw [List.foldl_cons, ih, get?_add, Option.or_assoc]
      by_cases counts : r.text = text ∧ r.weight w ≠ 0
      · simp [counts]
      · rw [if_neg counts, List.find?_cons_of_neg (by simpa using counts), Option.none_or]
  exact added .empty

theorem foldr_insertEntry (weight : Nat) {text : String} {entries : List (String × Nat)}
    (absent : ∀ e ∈ entries, e.1 ≠ text) :
    ((SortedMap.insertEntry text weight entries).map (·.2)).foldr (· + ·) 0 =
      weight + (entries.map (·.2)).foldr (· + ·) 0 := by
  induction entries with
  | nil => rfl
  | cons e rest ih =>
    rw [List.forall_mem_cons] at absent
    simp only [SortedMap.insertEntry]
    split
    · rfl
    · rename_i notFirst
      split
      · rw [List.map_cons, List.map_cons, List.foldr_cons, List.foldr_cons, ih absent.2]
        omega
      · rename_i notLater
        exact absurd (SortKey.eq_of_not_before (by simpa using notLater) (by simpa using notFirst))
          absent.1

theorem score_add (h : Hints) (reason : String) (weight : Nat) :
    (h.add reason weight).score = h.score + if h.contains reason then 0 else weight := by
  unfold add
  cases known : h.contains reason with
  | true => simp
  | false =>
    by_cases none : weight = 0
    · simp [none]
    · have absent : ∀ e ∈ h.toList, e.1 ≠ reason := by
        simpa [SortedMap.contains] using known
      have total := foldr_insertEntry weight absent
      simp only [none, decide_false, Bool.or_self, if_false, Bool.false_eq_true]
      exact total.trans (Nat.add_comm _ _)

theorem score_single (w : HintWeights) (r : Reason) : (ofReasons w [r]).score = r.weight w := by
  change (add .empty r.text (r.weight w)).score = _
  rw [score_add]
  exact Nat.zero_add _

theorem score_pair (w : HintWeights) (r s : Reason) : (ofReasons w [r, s]).score =
    r.weight w + if r.text = s.text ∧ r.weight w ≠ 0 then 0 else s.weight w := by
  change ((ofReasons w [r]).add s.text (s.weight w)).score = _
  rw [score_add, score_single, SortedMap.contains_eq_isSome, get?_ofReasons]
  by_cases counted : r.text = s.text ∧ r.weight w ≠ 0
  · rw [if_pos counted, List.find?_cons_of_pos (by simpa using counted)]
    rfl
  · rw [if_neg counted, List.find?_cons_of_neg (by simpa using counted)]
    rfl

theorem exists_of_get? {w : HintWeights} {reasons : List Reason} {text : String} {weight : Nat}
    (known : (ofReasons w reasons).get? text = some weight) :
    ∃ r ∈ reasons, r.text = text ∧ r.weight w = weight ∧ weight ≠ 0 := by
  rw [get?_ofReasons] at known
  obtain ⟨r, first, rfl⟩ := Option.map_eq_some_iff.mp known
  have counts := List.find?_some first
  simp only [decide_eq_true_eq] at counts
  exact ⟨r, List.mem_of_find?_eq_some first, counts.1, rfl, counts.2⟩

theorem exists_get?_text {w : HintWeights} {reasons : List Reason} {r : Reason}
    (member : r ∈ reasons) (weighs : r.weight w ≠ 0) :
    ∃ weight, (ofReasons w reasons).get? r.text = some weight := by
  rw [get?_ofReasons, ← Option.isSome_iff_exists, Option.isSome_map, List.find?_isSome]
  exact ⟨r, member, by simpa using weighs⟩

end Hints

end CulpritFinding
