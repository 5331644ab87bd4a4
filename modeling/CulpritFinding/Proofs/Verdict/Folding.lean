import CulpritFinding.FollowUp
import Mathlib.Data.List.Induction
import Mathlib.Data.List.Nodup

namespace CulpritFinding

theorem find?_key_of_perm {α κ : Type} [DecidableEq κ] {key : α → κ} {xs ys : List α}
    (perm : xs.Perm ys) (once : (xs.map key).Nodup) (k : κ) :
    xs.find? (key · = k) = ys.find? (key · = k) := by
  induction perm with
  | nil => rfl
  | cons x _ ih => rw [List.find?_cons, List.find?_cons, ih (List.nodup_cons.mp once).2]
  | swap x y rest =>
    have apart : key y ≠ key x := fun same =>
      (List.nodup_cons.mp once).1 (same ▸ List.mem_cons_self)
    -- At most one of the two is asked for, so it does not matter which is seen first.
    by_cases own : key x = k
    · simp [own, own ▸ apart]
    · simp [List.find?_cons, own]
  | trans first _ ih ih' => exact (ih once).trans (ih' ((first.map key).nodup_iff.mp once))

namespace Analysis

variable {a : Analysis} {read : List (String × String)} {found : List Culprit}

theorem blame_of_found {failure revision : String} (distinct : (found.map (·.revision)).Nodup)
    (known : revision ∈ found.map (·.revision)) :
    a.blame failure revision found = found.map fun c =>
      if c.revision = revision then { c with failures := c.failures ++ [failure] } else c := by
  induction found with
  | nil => cases known
  | cons c rest ih =>
    rw [List.map_cons, List.nodup_cons] at distinct
    unfold blame
    by_cases own : c.revision = revision
    · have others : rest.map (fun c => if c.revision = revision then
          { c with failures := c.failures ++ [failure] } else c) = rest := by
        refine (List.map_congr_left fun c' member => if_neg fun same => ?_).trans (List.map_id _)
        exact distinct.1 (own.trans same.symm ▸ List.mem_map_of_mem member)
      rw [if_pos own, List.map_cons, if_pos own, others]
    · have later : revision ∈ rest.map (·.revision) :=
        (List.mem_cons.mp known).resolve_left fun same => own same.symm
      rw [if_neg own, List.map_cons, if_neg own, ih distinct.2 later]

theorem blame_of_new {failure revision : String} (new : revision ∉ found.map (·.revision)) :
    a.blame failure revision found = found ++ [a.culpritAt failure revision] := by
  induction found with
  | nil => rfl
  | cons c rest ih =>
    rw [List.map_cons, List.mem_cons, not_or] at new
    unfold blame
    rw [if_neg (Ne.symm new.1), ih new.2]
    rfl

/-- What is told of a culprit is what is known of the first suspect with its revision. -/
inductive Describes (a : Analysis) (c : Culprit) : Prop
  | suspected {s : Suspect} (first : a.suspects.find? (·.revision = c.revision) = some s)
      (repository : c.repoName = s.repoName) (position : c.commitPosition = s.commitPosition)
  | unsuspected (absent : ∀ s ∈ a.suspects, s.revision ≠ c.revision)
      (repository : c.repoName = a.key.build.project) (position : c.commitPosition = none)

theorem describes_culpritAt (a : Analysis) (failure revision : String) :
    a.Describes (a.culpritAt failure revision) := by
  cases suspected : a.suspects.find? fun s => s.revision = revision with
  | some s =>
    refine .suspected suspected ?_ ?_ <;> simp [culpritAt, suspected]
  | none =>
    refine .unsuspected (fun s member => ?_) ?_ ?_
    · simpa [culpritAt] using List.find?_eq_none.mp suspected s member
    all_goals simp [culpritAt, suspected]

theorem Describes.withFailures {c : Culprit} (described : a.Describes c) (failures : List String) :
    a.Describes { c with failures } := by
  cases described with
  | suspected first repository position => exact .suspected first repository position
  | unsuspected absent repository position => exact .unsuspected absent repository position

/-- The culprits that were found so far have the failures that were looked at, each with the
revision that it is laid to. -/
structure Regroups (a : Analysis) (read : List (String × String)) (found : List Culprit) :
    Prop where
  distinct : (found.map (·.revision)).Nodup
  revisions : ∀ revision, revision ∈ found.map (·.revision) ↔ revision ∈ read.map (·.2)
  failures : ∀ c ∈ found, c.failures = (read.filter (·.2 = c.revision)).map (·.1)
  described : ∀ c ∈ found, a.Describes c

theorem Regroups.blame_found (regroups : a.Regroups read found) {failure revision : String}
    (known : revision ∈ found.map (·.revision)) :
    a.Regroups (read ++ [(failure, revision)]) (a.blame failure revision found) := by
  rw [blame_of_found regroups.distinct known]
  have revisions : (found.map fun c => if c.revision = revision then
      { c with failures := c.failures ++ [failure] } else c).map (·.revision) =
        found.map (·.revision) := by
    rw [List.map_map]
    refine List.map_congr_left fun c _ => ?_
    dsimp only [Function.comp_apply]
    split <;> rfl
  refine ⟨revisions ▸ regroups.distinct, fun other => ?_, fun c member => ?_, fun c member => ?_⟩
  · rw [revisions, List.map_append, List.mem_append, ← regroups.revisions, List.map_singleton,
      List.mem_singleton]
    exact (or_iff_left_of_imp fun same => same ▸ known).symm
  all_goals
    obtain ⟨former, earlier, rfl⟩ := List.mem_map.mp member
    split
  · rename_i own
    simp [regroups.failures former earlier, own]
  · rename_i other
    simp [regroups.failures former earlier, Ne.symm other]
  · exact (regroups.described former earlier).withFailures _
  · exact regroups.described former earlier

theorem Regroups.blame_new (regroups : a.Regroups read found) {failure revision : String}
    (new : revision ∉ found.map (·.revision)) :
    a.Regroups (read ++ [(failure, revision)]) (a.blame failure revision found) := by
  rw [blame_of_new new]
  refine ⟨?_, fun other => ?_, fun c member => ?_, fun c member => ?_⟩
  · rw [List.map_append, List.map_singleton, ← List.concat_eq_append]
    exact .concat new regroups.distinct
  · rw [List.map_append, List.map_append, List.mem_append, List.mem_append, regroups.revisions]
    rfl
  all_goals rcases List.mem_append.mp member with earlier | own
  · have other : revision ≠ c.revision := fun same => new (same ▸ List.mem_map_of_mem earlier)
    simp [regroups.failures c earlier, other]
  · obtain rfl := List.mem_singleton.mp own
    have absent : read.filter (·.2 = revision) = [] := by
      refine List.filter_eq_nil_iff.mpr fun e member same => new ?_
      rw [regroups.revisions, ← of_decide_eq_true same]
      exact List.mem_map_of_mem member
    show [failure] = ((read ++ [(failure, revision)]).filter (·.2 = revision)).map (·.1)
    rw [List.filter_append, absent]
    simp
  · exact regroups.described c earlier
  · obtain rfl := List.mem_singleton.mp own
    exact describes_culpritAt ..

theorem Regroups.blame (regroups : a.Regroups read found) (failure revision : String) :
    a.Regroups (read ++ [(failure, revision)]) (a.blame failure revision found) := by
  by_cases known : revision ∈ found.map (·.revision)
  · exact regroups.blame_found known
  · exact regroups.blame_new known

theorem regroups_culpritsOf (a : Analysis) (guilty : SortedMap String String) :
    a.Regroups guilty.toList (a.culpritsOf guilty) := by
  unfold culpritsOf
  -- By the last entry read, as the culprits found from the others are what it is laid to.
  induction guilty.toList using List.reverseRecOn with
  | nil => exact ⟨List.nodup_nil, fun _ => .rfl, List.forall_mem_nil _, List.forall_mem_nil _⟩
  | append_singleton read e regroups =>
    rw [List.foldl_append]
    exact regroups.blame e.1 e.2

section Regrouped

variable {guilty : SortedMap String String} (regroups : a.Regroups guilty.toList found)

include regroups

theorem Regroups.mem_failures {c : Culprit} (member : c ∈ found) {failure : String} :
    failure ∈ c.failures ↔ guilty.get? failure = some c.revision := by
  rw [regroups.failures c member, SortedMap.get?_eq_some, List.mem_map]
  constructor
  · rintro ⟨e, listed, rfl⟩
    obtain ⟨listed, same⟩ := List.mem_filter.mp listed
    rwa [← of_decide_eq_true same]
  · intro listed
    exact ⟨_, List.mem_filter.mpr ⟨listed, decide_eq_true rfl⟩, rfl⟩

theorem Regroups.ascending {c : Culprit} (member : c ∈ found) :
    c.failures.Pairwise fun failure failure' => SortKey.before failure failure' = true := by
  rw [regroups.failures c member, List.pairwise_map]
  exact guilty.ascending.filter _

theorem Regroups.nodup_failures : (found.flatMap (·.failures)).Nodup := by
  refine List.nodup_flatMap.mpr ⟨fun c member => ?_, ?_⟩
  · exact (regroups.ascending member).imp fun before => SortKey.ne_of_before before
  · refine (List.pairwise_map.mp regroups.distinct).imp_of_mem fun member member' apart => ?_
    intro failure listed listed'
    rw [regroups.mem_failures member] at listed
    rw [regroups.mem_failures member'] at listed'
    exact apart (Option.some.inj (listed.symm.trans listed'))

theorem Regroups.count_failures {failure : String} (judged : failure ∈ guilty.keys) :
    (found.flatMap (·.failures)).count failure = 1 := by
  obtain ⟨e, listed, rfl⟩ := List.mem_map.mp judged
  obtain ⟨c, member, same⟩ :=
    List.mem_map.mp ((regroups.revisions e.2).mpr (List.mem_map_of_mem listed))
  refine List.count_eq_one_of_mem regroups.nodup_failures (List.mem_flatMap.mpr ⟨c, member, ?_⟩)
  rw [regroups.mem_failures member, same]
  exact SortedMap.get?_eq_some.mpr listed

end Regrouped

theorem blame_congr {b : Analysis}
    (alike : ∀ failure revision, a.culpritAt failure revision = b.culpritAt failure revision)
    (failure revision : String) (found : List Culprit) :
    a.blame failure revision found = b.blame failure revision found := by
  induction found with
  | nil => simp only [blame, alike]
  | cons c rest ih => simp only [blame, ih]

theorem culpritsOf_congr {b : Analysis}
    (alike : ∀ failure revision, a.culpritAt failure revision = b.culpritAt failure revision)
    (guilty : SortedMap String String) : a.culpritsOf guilty = b.culpritsOf guilty := by
  unfold culpritsOf
  simp only [blame_congr alike]

/-- Folding in a verdict sorts its failures by their culprits. The culprits that were known before
play no part in it, and neither does the order of the suspects. -/
theorem withVerdict_regroups (a : Analysis) (guilty : SortedMap String String)
    (doubtful : SortedSet String) (now : Instant) :
    let v := Verdict.found guilty doubtful
    let culprits := (a.withVerdict v now).culprits
    (culprits.map (·.revision)).Nodup ∧
      (∀ revision, revision ∈ culprits.map (·.revision) ↔
        revision ∈ v.culpritRevisions.toList) ∧
      (∀ failure ∈ guilty.keys, (culprits.flatMap (·.failures)).count failure = 1) ∧
      (∀ c ∈ culprits,
        (∀ failure, failure ∈ c.failures ↔ guilty.get? failure = some c.revision) ∧
        (c.failures.Pairwise fun failure failure' => SortKey.before failure failure' = true) ∧
        a.Describes c) ∧
      (∀ others, { a with culprits := others }.withVerdict v now = a.withVerdict v now) ∧
      ((a.suspects.map (·.revision)).Nodup → ∀ suspects, a.suspects.Perm suspects →
        { a with suspects }.withVerdict v now = { a.withVerdict v now with suspects }) := by
  intro v culprits
  have regroups : a.Regroups guilty.toList culprits := a.regroups_culpritsOf guilty
  refine ⟨regroups.distinct, ?_, fun failure => regroups.count_failures, fun c member => ?_, ?_, ?_⟩
  · intro revision
    rw [regroups.revisions]
    exact SortedSet.mem_ofList.symm
  · exact ⟨fun failure => regroups.mem_failures member, regroups.ascending member,
      regroups.described c member⟩
  · intro others
    have same : { a with culprits := others }.culpritsOf guilty = a.culpritsOf guilty := by
      refine culpritsOf_congr (fun failure revision => ?_) guilty
      rfl
    simp only [v, withVerdict, same]
  · intro once suspects perm
    have same : { a with suspects }.culpritsOf guilty = a.culpritsOf guilty := by
      refine culpritsOf_congr (fun failure revision => ?_) guilty
      simp only [culpritAt, find?_key_of_perm perm once]
    simp only [v, withVerdict, same]
    rfl

end Analysis

namespace Interleaved

def analysis : Analysis :=
  { Analysis.new ⟨⟨"chromium", "linux-rel", 120⟩, .test⟩ ⟨0, 0⟩ with
    suspects := [⟨"v8", "r119", some 7119, 120, 5, .empty, []⟩,
      ⟨"skia", "r118", some 7118, 120, 2, .empty, []⟩] }

def guilty : SortedMap String String :=
  .ofList [("tests/A", "r120"), ("tests/B", "r119"), ("tests/C", "r120")]

def folded (a : Analysis) : Analysis := a.withVerdict (.found guilty .empty) ⟨60, 0⟩

theorem culprits_regrouped :
    (analysis.suspects.map (·.revision)).Nodup ∧ "tests/C" ∈ guilty.keys ∧
      (folded analysis).culprits =
        [⟨"chromium", "r120", none, .tryJob, ["tests/A", "tests/C"]⟩,
          ⟨"v8", "r119", some 7119, .tryJob, ["tests/B"]⟩] ∧
      ((folded analysis).culprits.flatMap (·.failures)).count "tests/C" = 1 ∧
      (folded { analysis with suspects := analysis.suspects.reverse }).culprits =
        (folded analysis).culprits := by
  have once : (analysis.suspects.map (·.revision)).Nodup := by decide
  have listed : "tests/C" ∈ guilty.keys := by decide
  obtain ⟨-, -, counted, -, -, reordered⟩ :=
    analysis.withVerdict_regroups guilty .empty ⟨60, 0⟩
  have same := congrArg Analysis.culprits
    (reordered once _ analysis.suspects.reverse_perm.symm)
  exact ⟨once, listed, by decide +kernel, counted _ listed, same⟩

end Interleaved

end CulpritFinding
