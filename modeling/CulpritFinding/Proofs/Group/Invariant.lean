import CulpritFinding.Proofs.Group.Representatives

namespace CulpritFinding

namespace RegressionWindow

/-- The commits of a window are those above position `low` and up to position `high`. -/
structure Spans (w : RegressionWindow) (low high : Int) : Prop where
  failed : w.firstFailed.commitPosition = some high
  passed : match w.lastPassed with
    | none => low = high - 1
    | some commit => commit.commitPosition = some low

theorem positions?_eq_some {w : RegressionWindow} {low high : Int} :
    w.positions? = some (low, high) ↔ w.Spans low high := by
  constructor
  · intro known
    simp only [positions?, Option.bind_eq_bind, Option.bind_eq_some_iff] at known
    obtain ⟨top, failed, rest⟩ := known
    cases passed : w.lastPassed with
    | none =>
      rw [passed] at rest
      cases rest
      exact ⟨failed, by rw [passed]⟩
    | some commit =>
      simp only [passed, Option.pure_def, Option.bind_eq_some_iff] at rest
      obtain ⟨bottom, position, same⟩ := rest
      cases same
      exact ⟨failed, by rw [passed]; exact position⟩
  · rintro ⟨failed, passed⟩
    unfold positions?
    rw [failed]
    revert passed
    cases w.lastPassed with
    | none => rintro rfl; rfl
    | some commit =>
      intro position
      dsimp only at position ⊢
      simp [position]

/-- The commit positions of a window are known; without a last pass, that of the first failure
tells them. -/
def Located (w : RegressionWindow) : Prop := ∃ low high, w.Spans low high

section

variable {w w' : RegressionWindow} {low high low' high' : Int}

theorem Spans.unique (spans : w.Spans low high) (spans' : w.Spans low' high') :
    low = low' ∧ high = high' := by
  have same := (positions?_eq_some.mpr spans).symm.trans (positions?_eq_some.mpr spans')
  cases same
  exact ⟨rfl, rfl⟩

theorem overlaps_of_spans (spans : w.Spans low high) (spans' : w'.Spans low' high') :
    w.overlaps w' = true ↔ low < high' ∧ low' < high := by
  unfold overlaps
  rw [positions?_eq_some.mpr spans, positions?_eq_some.mpr spans']
  simp

theorem overlaps_of_unlocated (unknown : ¬ (w.Located ∧ w'.Located)) :
    w.overlaps w' = true ↔ w.firstFailed.revision = w'.firstFailed.revision := by
  unfold overlaps
  split
  · rename_i known known'
    have located : w.Located := ⟨_, _, positions?_eq_some.mp known⟩
    have located' : w'.Located := ⟨_, _, positions?_eq_some.mp known'⟩
    exact absurd ⟨located, located'⟩ unknown
  · exact decide_eq_true_iff

end

/-- Two windows without a commit in common, as far as their positions tell, and otherwise with
different commits that failed first. -/
structure Disjoint (w w' : RegressionWindow) : Prop where
  positions : ∀ {low high low' high' : Int}, w.Spans low high → w'.Spans low' high' →
    ∀ position, ¬ ((low < position ∧ position ≤ high) ∧ low' < position ∧ position ≤ high')
  revisions : (¬ ∃ low high, w.Spans low high) ∨ (¬ ∃ low high, w'.Spans low high) →
    w.firstFailed.revision ≠ w'.firstFailed.revision

theorem disjoint_of_not_overlaps {w w' : RegressionWindow} (apart : w.overlaps w' = false) :
    w.Disjoint w' where
  positions := by
    intro low high low' high' spans spans' position ⟨inside, inside'⟩
    have misses := mt (overlaps_of_spans spans spans').mpr (Bool.eq_false_iff.mp apart)
    omega
  revisions := fun unknown =>
    mt (overlaps_of_unlocated (not_and_or.mpr unknown)).mpr (Bool.eq_false_iff.mp apart)

end RegressionWindow

namespace FailureGroup

structure WellFormed (g : FailureGroup) : Prop where
  signed : g.signature.isEmpty = false
  named : "" ∉ g.signature.nodes.toList
  once : g.members.Nodup
  first : g.members.head? = some g.representative

theorem WellFormed.addMember {g : FailureGroup} (ok : g.WellFormed) {build : BuildKey}
    (absent : build ∉ g.members) :
    FailureGroup.WellFormed { g with members := g.members ++ [build] } := by
  refine ⟨ok.signed, ok.named, ?_, ?_⟩
  · rw [← List.concat_eq_append]
    exact .concat absent ok.once
  · exact List.head?_append.trans (by rw [ok.first]; rfl)

/-- Two groups whose windows have no commit in common if they are about one failure. -/
def Separate (g g' : FailureGroup) : Prop :=
  g.project = g'.project → g.kind = g'.kind → g.signature = g'.signature →
    g.window.Disjoint g'.window

end FailureGroup

theorem FailureSignature.empty_not_mem_ofNodes (nodes : List String) :
    "" ∉ (ofNodes nodes).nodes.toList := by
  intro member
  have kept := SortedSet.mem_ofList.mp member
  simp at kept

/-- What a failure that is grouped may do to the groups: it starts one at their end, or its build
becomes the last member of one. -/
inductive GroupStep (r : GroupingRequest) (groups : List FailureGroup) : List FailureGroup → Prop
  | unchanged : GroupStep r groups groups
  | started (signed : r.signature.isEmpty = false) : GroupStep r groups (groups ++ [r.founds])
  | joined {before after : List FailureGroup} {g : FailureGroup}
      (present : groups = before ++ g :: after) (absent : r.build.key ∉ g.members) :
      GroupStep r groups
        (before ++ { g with members := g.members ++ [r.build.key] } :: after)

theorem Store.replaceGroup_of_mem (g' : FailureGroup) {g : FailureGroup} (same : g'.id = g.id) :
    ∀ {groups : List FailureGroup}, (groups.map (·.id)).Nodup → g ∈ groups →
      ∃ before after, groups = before ++ g :: after ∧
        replaceGroup g' groups = before ++ g' :: after
  | first :: rest, unique, member => by
    rw [List.map_cons, List.nodup_cons] at unique
    unfold replaceGroup
    rcases List.mem_cons.mp member with rfl | later
    · rw [if_pos same.symm]
      exact ⟨[], rest, rfl, rfl⟩
    · have other : first.id ≠ g'.id := by
        intro clash
        rw [clash, same] at unique
        exact unique.1 (List.mem_map_of_mem later)
      obtain ⟨before, after, present, replaced⟩ := replaceGroup_of_mem g' same unique.2 later
      rw [if_neg other, replaced, present]
      exact ⟨first :: before, after, rfl, rfl⟩

theorem Store.replaceGroup_self {g : FailureGroup} {groups : List FailureGroup}
    (unique : (groups.map (·.id)).Nodup) (member : g ∈ groups) :
    replaceGroup g groups = groups := by
  obtain ⟨before, after, present, replaced⟩ := replaceGroup_of_mem g rfl unique member
  rw [replaced, ← present]

variable {services : Services} {r : GroupingRequest} {s s' : EngineState}
  {past : List GroupingEpisode} {e : GroupingEpisode}
  {answer : Except AnalysisError (Option GroupMembership)}

theorem Grouping.groupStep (grouping : Grouping services r s answer s')
    (unique : (s.store.groups.map (·.id)).Nodup) :
    s'.store = { s.store with groups := s'.store.groups } ∧
      GroupStep r s.store.groups s'.store.groups := by
  cases grouping with
  | unsigned | failed | stopped | own | known => exact ⟨rfl, .unchanged⟩
  | @joined g signed found others =>
    refine ⟨rfl, ?_⟩
    have member := FailureTraits.mem_of_firstFit? found
    show GroupStep _ _ (Store.replaceGroup (g.addMember r.build.key) s.store.groups)
    unfold FailureGroup.addMember
    split
    · rw [Store.replaceGroup_self unique member]
      exact .unchanged
    · rename_i absent
      obtain ⟨before, after, present, replaced⟩ :=
        Store.replaceGroup_of_mem { g with members := g.members ++ [r.build.key] }
          (by rfl : _ = g.id) unique member
      rw [replaced]
      exact .joined present absent
  | started signed alone fresh => exact ⟨rfl, .started signed⟩

theorem Grouping.unchanged_of_error {error : AnalysisError}
    (grouping : Grouping services r s (.error error) s') : s' = s := by
  cases grouping <;> rfl

theorem GroupingRequest.founds_wellFormed (signed : r.signature.isEmpty = false)
    (named : "" ∉ r.signature.nodes.toList) : r.founds.WellFormed :=
  ⟨signed, named, List.nodup_singleton _, rfl⟩

theorem GroupStep.wellFormed {groups groups' : List FailureGroup}
    (step : GroupStep r groups groups') (named : "" ∉ r.signature.nodes.toList)
    (ok : ∀ g ∈ groups, g.WellFormed) : ∀ g ∈ groups', g.WellFormed := by
  cases step with
  | unchanged => exact ok
  | started signed =>
    intro g member
    rcases List.mem_append.mp member with known | new
    · exact ok g known
    · rw [List.mem_singleton.mp new]
      exact GroupingRequest.founds_wellFormed signed named
  | joined present absent =>
    subst present
    intro g member
    rcases List.mem_append.mp member with earlier | member
    · exact ok g (List.mem_append_left _ earlier)
    · rcases List.mem_cons.mp member with rfl | later
      · exact (ok _ (List.mem_append_right _ List.mem_cons_self)).addMember absent
      · exact ok g (List.mem_append_right _ (List.mem_cons_of_mem _ later))

theorem Represented.separate (represented : Represented past s) :
    s.store.groups.Pairwise FailureGroup.Separate :=
  (List.pairwise_map.mp represented.apart).imp fun apart project kind signature =>
    RegressionWindow.disjoint_of_not_overlaps (apart project kind signature)

theorem GroupingRun.wellFormed (run : GroupingRun past s)
    (named : ∀ e ∈ past, "" ∉ e.request.signature.nodes.toList) :
    ∀ g ∈ s.store.groups, g.WellFormed := by
  induction run with
  | start => exact List.forall_mem_nil _
  | @step past e run ok =>
    obtain ⟨namedNow, namedBefore⟩ := List.forall_mem_cons.mp named
    exact (e.grouping.groupStep run.represented.unique).2.wellFormed namedNow (ok namedBefore)

/-- A failure that is grouped starts a group, joins one or leaves the store as it is, and where
grouping it fails, nothing at all has changed. -/
structure GroupingEpisode.Steps (e : GroupingEpisode) : Prop where
  frame : e.after.store = { e.before.store with groups := e.after.store.groups }
  groups : GroupStep e.request e.before.store.groups e.after.store.groups
  failed : ∀ error, e.answer = .error error → e.after = e.before

theorem GroupingRun.steps (run : GroupingRun past s) : ∀ e ∈ past, e.Steps := by
  induction run with
  | start => exact List.forall_mem_nil _
  | @step past e run earlier =>
    refine List.forall_mem_cons.mpr ⟨?_, earlier⟩
    obtain ⟨frame, groups⟩ := e.grouping.groupStep run.represented.unique
    refine ⟨frame, groups, fun error failed => ?_⟩
    have grouping := e.grouping
    rw [failed] at grouping
    exact grouping.unchanged_of_error

/-- Whatever failures are grouped one after the other, and whichever operations of the store fail
in the course of it, every group is well-formed, two groups of one failure have no commit in
common, and each failure changed at most one group. -/
theorem GroupingRun.groups_invariant (run : GroupingRun past s)
    (made : ∀ e ∈ past, ∃ nodes, e.request.signature = .ofNodes nodes) :
    (∀ g ∈ s.store.groups, g.WellFormed) ∧ s.store.groups.Pairwise FailureGroup.Separate ∧
      ∀ e ∈ past, e.Steps := by
  refine ⟨run.wellFormed fun e member => ?_, run.represented.separate, run.steps⟩
  obtain ⟨nodes, same⟩ := made e member
  rw [same]
  exact FailureSignature.empty_not_mem_ofNodes nodes

namespace Neighbours

def linux : GroupingEpisode := ⟨.giving "8000001", Shared.request 1 "linux" 100 105, .initial⟩

def refused : GroupingEpisode where
  services := { Services.giving "8000001" with
    storeFault := fun method => if method = .updateFailureGroup then some "full" else none }
  request := Shared.request 2 "mac" 103 108
  before := linux.after

def mac : GroupingEpisode := ⟨.giving "8000001", Shared.request 2 "mac" 103 108, refused.after⟩

def win : GroupingEpisode := ⟨.giving "8000001", Shared.request 3 "win" 105 110, mac.after⟩

theorem groups_stay_apart :
    win.after.store.groups.map (fun g => (g.id, g.members.map (·.builder))) =
        [(⟨1⟩, ["linux", "mac"]), (⟨3⟩, ["win"])] ∧
      win.after.store.groups.Pairwise FailureGroup.Separate ∧ refused.after = refused.before := by
  have run : GroupingRun [win, mac, refused, linux] win.after :=
    .step (.step (.step (.step .start)))
  obtain ⟨-, separate, steps⟩ := run.groups_invariant (by
    simp only [List.forall_mem_cons, List.not_mem_nil, false_implies, implies_true, and_true]
    exact ⟨⟨["foo.o"], rfl⟩, ⟨["foo.o"], rfl⟩, ⟨["foo.o"], rfl⟩, ⟨["foo.o"], rfl⟩⟩)
  have failed : refused.answer = .error (.store (.backend "full")) := by decide +kernel
  exact ⟨by decide +kernel, separate, (steps refused (by simp)).failed _ failed⟩

end Neighbours

end CulpritFinding
