import CulpritFinding.Proofs.Group.Invariant

namespace CulpritFinding

theorem RegressionWindow.overlaps_self_iff {w : RegressionWindow} :
    w.overlaps w = true ↔ ∀ low high, w.Spans low high → low < high := by
  simp only [← positions?_eq_some]
  unfold overlaps
  cases w.positions? with
  | none => simp
  | some positions => simp [Prod.ext_iff]

theorem RegressionWindow.overlaps?_self (w : RegressionWindow) :
    w.overlaps? w = if w.isBounded then some (w.overlaps w) else none := by
  unfold overlaps?
  rw [Bool.and_self]

namespace FailureGroup

theorem addMember_addMember (g : FailureGroup) (build : BuildKey) :
    (g.addMember build).addMember build = g.addMember build := by
  by_cases member : build ∈ g.members <;> simp [addMember, member]

def membership (g : FailureGroup) (build : BuildKey) : GroupMembership :=
  if g.representative = build then ⟨g, true⟩ else ⟨g.addMember build, false⟩

theorem founding_membership (g : FailureGroup) (build : BuildKey) :
    (g.membership build).group.founding = g.founding := by
  unfold membership
  split
  · rfl
  · exact g.founding_addMember build

theorem membership_membership (g : FailureGroup) (build : BuildKey) :
    (g.membership build).group.membership build = g.membership build := by
  have same : (g.addMember build).representative = g.representative :=
    (congrArg FailureGroup.representative (g.founding_addMember build) :)
  by_cases own : g.representative = build <;>
    simp [membership, own, same, addMember_addMember]

end FailureGroup

theorem FailureTraits.firstFit?_replaceGroup {r : FailureTraits} {g g' : FailureGroup}
    (same : g'.id = g.id) (fits : r.fits? g' = some true) :
    ∀ {groups : List FailureGroup}, (groups.map (·.id)).Nodup →
      r.firstFit? groups = some (some g) →
        r.firstFit? (Store.replaceGroup g' groups) = some (some g')
  | first :: rest, unique, found => by
    rw [List.map_cons, List.nodup_cons] at unique
    rw [firstFit?_cons] at found
    unfold Store.replaceGroup
    rcases passed : r.fits? first with _ | _ | _ <;> rw [passed] at found
    · cases found
    · have later : r.firstFit? rest = some (some g) := found
      have other : first.id ≠ g'.id := by
        intro clash
        rw [clash, same] at unique
        exact unique.1 (List.mem_map_of_mem (mem_of_firstFit? later))
      rw [if_neg other, firstFit?_cons, passed]
      exact firstFit?_replaceGroup same fits unique.2 later
    · cases found
      rw [if_pos same.symm, firstFit?_cons, fits]
      rfl

theorem FailureTraits.fits?_of_firstFit? {r : FailureTraits} {g : FailureGroup} :
    ∀ {groups : List FailureGroup}, r.firstFit? groups = some (some g) → r.fits? g = some true
  | first :: rest, found => by
    rw [firstFit?_cons] at found
    rcases passed : r.fits? first with _ | _ | _ <;> rw [passed] at found
    · cases found
    · exact fits?_of_firstFit? found
    · cases found
      exact passed

/-- A failure that finds its group again: nothing identifies it, it fits a group, or its window is
not known to hold no commit. -/
inductive FailureTraits.Settles (r : FailureTraits) (groups : List FailureGroup) : Prop
  | unsigned (empty : r.signature.isEmpty = true)
  | fitting {g : FailureGroup} (member : g ∈ groups) (fits : r.fits g = true)
  | spanning (bounded : r.window.isBounded = true)
      (commits : ∀ low high, r.window.Spans low high → low < high)

theorem FailureTraits.settles_iff_of_misfit {r : FailureTraits} {groups : List FailureGroup}
    (signed : r.signature.isEmpty = false) (misfit : r.firstFit? groups = some none) :
    r.Settles groups ↔ r.window.overlaps? r.window = some true := by
  have overlaps : r.window.overlaps? r.window = some true ↔
      r.window.isBounded = true ∧ r.window.overlaps r.window = true := by
    rw [RegressionWindow.overlaps?_self]
    split <;> simp_all
  rw [overlaps, RegressionWindow.overlaps_self_iff]
  constructor
  · intro settles
    cases settles with
    | unsigned empty => cases signed.symm.trans empty
    | fitting member fits =>
      exact absurd fits (List.find?_eq_none.mp (find?_of_firstFit? misfit) _ member)
    | spanning bounded commits => exact ⟨bounded, commits⟩
  · exact fun ⟨bounded, commits⟩ => .spanning bounded commits

namespace GroupingRequest

def again (r : GroupingRequest) (freshId : GroupId) : GroupingRequest := { r with freshId }

theorem fits?_founds (r : GroupingRequest) : r.fits? r.founds = r.window.overlaps? r.window :=
  if_pos ⟨rfl, rfl, rfl⟩

end GroupingRequest

variable {services : Services} {r : GroupingRequest} {s s' : EngineState}
  {past : List GroupingEpisode} {answer : Except AnalysisError (Option GroupMembership)}

theorem Grouping.of_unsigned (works : services.StoreWorks)
    (fresh : ∀ g ∈ s.store.groups, g.id ≠ r.freshId) (grouping : Grouping services r s answer s')
    (unsigned : r.signature.isEmpty = true) :
    answer = .ok none ∧ s'.store.groups = s.store.groups := by
  cases grouping with
  | unsigned => exact ⟨rfl, rfl⟩
  | failed cause =>
    obtain ⟨-, g, member, taken⟩ := cause works
    exact absurd taken (fresh g member)
  | stopped signed | own signed | known signed | joined signed | started signed =>
    cases unsigned.symm.trans signed

theorem Grouping.of_stops (works : services.StoreWorks) (grouping : Grouping services r s answer s')
    (stops : r.Stops s.store.groups) : answer = .error .outOfRange ∧ s' = s := by
  obtain rfl := (grouping.stopped_iff works).mpr stops
  cases grouping with
  | stopped => exact ⟨rfl, rfl⟩

theorem Grouping.of_fit (works : services.StoreWorks)
    (unique : (s.store.groups.map (·.id)).Nodup) (grouping : Grouping services r s answer s')
    (signed : r.signature.isEmpty = false) {g : FailureGroup}
    (fit : r.firstFit? s.store.groups = some (some g)) :
    answer = .ok (some (g.membership r.build.key)) ∧
      s'.store.groups =
        Store.replaceGroup (g.membership r.build.key).group s.store.groups := by
  have member := FailureTraits.mem_of_firstFit? fit
  unfold FailureGroup.membership
  cases grouping with
  | unsigned empty => cases signed.symm.trans empty
  | failed cause => cases (cause works).1.symm.trans fit
  | stopped _ unbounded => cases unbounded.symm.trans fit
  | own _ found own =>
    cases found.symm.trans fit
    rw [if_pos own]
    exact ⟨rfl, (Store.replaceGroup_self unique member).symm⟩
  | known _ found others listed =>
    cases found.symm.trans fit
    rw [if_neg others]
    refine ⟨rfl, ?_⟩
    have same : g.addMember r.build.key = g := if_pos listed
    rw [same]
    exact (Store.replaceGroup_self unique member).symm
  | joined _ found others =>
    cases found.symm.trans fit
    rw [if_neg others]
    exact ⟨rfl, rfl⟩
  | started _ alone => cases alone.symm.trans fit

theorem Grouping.of_misfit (works : services.StoreWorks)
    (fresh : ∀ g ∈ s.store.groups, g.id ≠ r.freshId) (grouping : Grouping services r s answer s')
    (signed : r.signature.isEmpty = false) (misfit : r.firstFit? s.store.groups = some none) :
    answer = .ok (some ⟨r.founds, true⟩) ∧ s'.store.groups = s.store.groups ++ [r.founds] := by
  cases grouping with
  | unsigned empty => cases signed.symm.trans empty
  | failed cause =>
    obtain ⟨-, g, member, taken⟩ := cause works
    exact absurd taken (fresh g member)
  | stopped _ unbounded => cases misfit.symm.trans unbounded
  | own _ found | known _ found | joined _ found => cases misfit.symm.trans found
  | started => exact ⟨rfl, rfl⟩

section Twice

variable {s'' : EngineState} {answer' : Except AnalysisError (Option GroupMembership)}
  {other : GroupId}

theorem Grouping.again_of_fit (works : services.StoreWorks)
    (unique : (s.store.groups.map (·.id)).Nodup) (first : Grouping services r s answer s')
    (second : Grouping services (r.again other) s' answer' s'')
    (signed : r.signature.isEmpty = false) {g : FailureGroup}
    (fit : r.firstFit? s.store.groups = some (some g)) :
    answer' = answer ∧ s''.store.groups = s'.store.groups := by
  obtain ⟨rfl, groups⟩ := first.of_fit works unique signed fit
  have sameId : (g.membership r.build.key).group.id = g.id :=
    (congrArg FailureGroup.id (g.founding_membership r.build.key) :)
  have fits : r.fits? (g.membership r.build.key).group = some true := by
    show r.fits? (g.membership r.build.key).group.founding = some true
    rw [g.founding_membership]
    exact (FailureTraits.fits?_of_firstFit? fit : r.fits? g = some true)
  have found : r.firstFit? s'.store.groups = some (some (g.membership r.build.key).group) := by
    rw [groups]
    exact FailureTraits.firstFit?_replaceGroup sameId fits unique fit
  have unique' := first.unique unique
  obtain ⟨rfl, groups'⟩ := second.of_fit works unique' signed found
  have same : (g.membership r.build.key).group.membership (r.again other).build.key =
      g.membership r.build.key := g.membership_membership r.build.key
  rw [same, Store.replaceGroup_self unique' (FailureTraits.mem_of_firstFit? found)] at groups'
  exact ⟨by rw [same], groups'⟩

theorem Grouping.again_of_misfit (works : services.StoreWorks)
    (unique : (s.store.groups.map (·.id)).Nodup)
    (fresh : ∀ g ∈ s.store.groups, g.id ≠ r.freshId) (first : Grouping services r s answer s')
    (freshAgain : ∀ g ∈ s'.store.groups, g.id ≠ other)
    (second : Grouping services (r.again other) s' answer' s'')
    (signed : r.signature.isEmpty = false) (misfit : r.firstFit? s.store.groups = some none) :
    match r.window.overlaps? r.window with
    | some true => answer' = answer ∧ s''.store.groups = s'.store.groups
    | some false => answer' = .ok (some ⟨(r.again other).founds, true⟩) ∧
        s''.store.groups = s'.store.groups ++ [(r.again other).founds]
    | none => answer' = .error .outOfRange ∧ s'' = s' := by
  obtain ⟨rfl, groups⟩ := first.of_misfit works fresh signed misfit
  have unique' := first.unique unique
  have found : r.firstFit? s'.store.groups =
      (r.window.overlaps? r.window).map fun fits => if fits then some r.founds else none := by
    rw [groups, FailureTraits.firstFit?_concat misfit, r.fits?_founds]
  split <;> rename_i overlaps <;> rw [overlaps] at found
  · obtain ⟨rfl, groups'⟩ := second.of_fit works unique' signed found
    have own : r.founds.membership (r.again other).build.key = ⟨r.founds, true⟩ := if_pos rfl
    rw [own, Store.replaceGroup_self unique' (FailureTraits.mem_of_firstFit? found)] at groups'
    exact ⟨by rw [own], groups'⟩
  · exact second.of_misfit works freshAgain signed found
  · exact second.of_stops works ⟨signed, found⟩

end Twice

/-- Grouping a failure a second time gives the same answer and changes nothing more, unless it has
started a group with a window that is known to hold no commit, or is unbounded: then it starts
another group, or stops. Where it stops the first time, it stops again. -/
theorem GroupingRun.regrouped_iff (run : GroupingRun past s) (works : services.StoreWorks)
    (fresh : ∀ g ∈ s.store.groups, g.id ≠ r.freshId) {other : GroupId}
    (freshAgain : ∀ g ∈ ((r.run services).runOn s).2.store.groups, g.id ≠ other) :
    let first := (r.run services).runOn s
    let second := ((r.again other).run services).runOn first.2
    (r.Stops s.store.groups → first = (.error .outOfRange, s) ∧ second = first) ∧
      (¬ r.Stops s.store.groups →
        (∃ membership, first.1 = .ok membership) ∧
        (second.1 = first.1 ∧ second.2.store = first.2.store ↔ r.Settles s.store.groups) ∧
        (¬ r.Settles s.store.groups →
          if r.window.isBounded then
            second.1 = .ok (some ⟨(r.again other).founds, true⟩) ∧
              second.2.store.groups = first.2.store.groups ++ [(r.again other).founds]
          else second = (.error .outOfRange, first.2))) := by
  intro first second
  have unique := run.represented.unique
  have grouping : Grouping services r s first.1 first.2 := r.run_runOn services s
  have grouping' : Grouping services (r.again other) first.2 second.1 second.2 :=
    (r.again other).run_runOn services first.2
  have frame (groups : second.2.store.groups = first.2.store.groups) :
      second.2.store = first.2.store := by
    rw [(grouping'.groupStep (grouping.unique unique)).1, groups]
  constructor
  · intro stops
    obtain ⟨answer, left⟩ := grouping.of_stops works stops
    rw [left] at grouping'
    obtain ⟨answer', left'⟩ := grouping'.of_stops works ⟨stops.signed, stops.unbounded⟩
    exact ⟨Prod.ext answer left, Prod.ext (answer'.trans answer.symm) (left'.trans left.symm)⟩
  intro compared
  cases signed : r.signature.isEmpty with
  | true =>
    have settles : r.Settles s.store.groups := .unsigned signed
    obtain ⟨answer, -⟩ := grouping.of_unsigned works fresh signed
    obtain ⟨answer', groups⟩ := grouping'.of_unsigned works freshAgain signed
    exact ⟨⟨none, answer⟩, iff_of_true ⟨answer'.trans answer.symm, frame groups⟩ settles,
      fun unsettled => absurd settles unsettled⟩
  | false =>
    rcases fit : r.firstFit? s.store.groups with _ | _ | g
    · exact absurd ⟨signed, fit⟩ compared
    · -- The only group that may be found again is the one just started, so its window decides.
      obtain ⟨answer, -⟩ := grouping.of_misfit works fresh signed fit
      have twice := grouping.again_of_misfit works unique fresh freshAgain grouping' signed fit
      rw [FailureTraits.settles_iff_of_misfit signed fit]
      split at twice <;> rename_i overlaps <;> rw [overlaps]
      · exact ⟨⟨_, answer⟩, iff_of_true ⟨twice.1, frame twice.2⟩ rfl, fun apart => absurd rfl apart⟩
      · rw [RegressionWindow.overlaps?_self] at overlaps
        split at overlaps
        · rename_i bounded
          refine ⟨⟨_, answer⟩, iff_of_false (fun same => ?_) nofun, fun _ => if_pos bounded ▸ twice⟩
          have grown := congrArg (·.groups.length) same.2
          simp [twice.2] at grown
        · cases overlaps
      · rw [RegressionWindow.overlaps?_self] at overlaps
        split at overlaps
        · cases overlaps
        · rename_i unbounded
          refine ⟨⟨_, answer⟩, iff_of_false (fun same => ?_) nofun, fun _ => ?_⟩
          · cases answer.symm.trans (same.1.symm.trans twice.1)
          · rw [if_neg unbounded]
            exact Prod.ext twice.1 twice.2
    · have settles : r.Settles s.store.groups :=
        .fitting (FailureTraits.mem_of_firstFit? fit)
          (FailureTraits.fits_of_fits? (FailureTraits.fits?_of_firstFit? fit))
      obtain ⟨answer, -⟩ := grouping.of_fit works unique signed fit
      obtain ⟨same, groups⟩ := grouping.again_of_fit works unique grouping' signed fit
      exact ⟨⟨_, answer⟩, iff_of_true ⟨same, frame groups⟩ settles,
        fun unsettled => absurd settles unsettled⟩

namespace Rebuilt

/-- A build that failed at the commit at which the one before it passed. -/
def request : GroupingRequest :=
  { Shared.request 1 "linux" 0 0 with window := ⟨some ⟨"r120", some 120⟩, ⟨"r120", some 120⟩⟩ }

/-- A build that failed at the least commit position, with no pass on record. -/
def first : GroupingRequest :=
  { request with window := ⟨none, ⟨"r0", some (-9223372036854775808)⟩⟩ }

def regrouped (r : GroupingRequest) : Except AnalysisError (Option GroupMembership) × EngineState :=
  ((r.again ⟨2⟩).run (.giving "8000001")).runOn ((r.run (.giving "8000001")).runOn .initial).2

theorem founded_twice :
    (regrouped request).1 = .ok (some ⟨(request.again ⟨2⟩).founds, true⟩) ∧
      (regrouped request).2.store.groups.map (·.id) = [⟨1⟩, ⟨2⟩] ∧
      (regrouped first).1 = .error .outOfRange ∧
      (regrouped first).2.store.groups.map (·.id) = [⟨1⟩] := by
  have compared (r : GroupingRequest) : ¬ r.Stops EngineState.initial.store.groups :=
    fun stops => nomatch stops.unbounded
  have unsettled : ¬ request.Settles EngineState.initial.store.groups := by
    intro settles
    cases settles with
    | unsigned empty => exact absurd empty (by decide +kernel)
    | fitting member => cases member
    | spanning bounded commits => exact absurd (commits 120 120 ⟨rfl, rfl⟩) (by decide)
  have unsettled' : ¬ first.Settles EngineState.initial.store.groups := by
    intro settles
    cases settles with
    | unsigned empty => exact absurd empty (by decide +kernel)
    | fitting member => cases member
    | spanning bounded => exact absurd bounded (by decide)
  have unused : ∀ r ∈ [request, first],
      ∀ g ∈ ((r.run (.giving "8000001")).runOn .initial).2.store.groups,
        g.id ≠ (⟨2⟩ : GroupId) := by decide +kernel
  have works := Services.giving_works "8000001"
  obtain ⟨-, -, starts⟩ := (GroupingRun.start.regrouped_iff (r := request) works (by decide)
    (unused _ (by simp))).2 (compared request)
  obtain ⟨-, -, stops⟩ := (GroupingRun.start.regrouped_iff (r := first) works (by decide)
    (unused _ (by simp))).2 (compared first)
  have bounded : request.window.isBounded = true := by decide
  have unbounded : ¬ first.window.isBounded = true := by decide
  have again := starts unsettled
  have again' := stops unsettled'
  rw [if_pos bounded] at again
  rw [if_neg unbounded] at again'
  exact ⟨again.1, by decide +kernel, congrArg Prod.fst again', by decide +kernel⟩

end Rebuilt

end CulpritFinding
