import CulpritFinding.Grouping
import CulpritFinding.Proofs.Engine
import Mathlib.Data.List.Nodup

namespace CulpritFinding

theorem RegressionWindow.overlaps_comm (w w' : RegressionWindow) :
    w.overlaps w' = w'.overlaps w := by
  unfold overlaps
  cases w.positions? <;> cases w'.positions?
  case some.some => exact Bool.and_comm ..
  all_goals exact decide_eq_decide.mpr eq_comm

theorem RegressionWindow.overlaps?_comm (w w' : RegressionWindow) :
    w.overlaps? w' = w'.overlaps? w := by
  unfold overlaps?
  rw [Bool.and_comm, overlaps_comm]

theorem RegressionWindow.overlaps?_eq_some {w w' : RegressionWindow} {answer : Bool}
    (compared : w.overlaps? w' = some answer) : w.overlaps w' = answer := by
  unfold overlaps? at compared
  split at compared
  · exact Option.some.inj compared
  · cases compared

namespace FailureGroup

/-- A group without its members: what it was started with. -/
def founding (g : FailureGroup) : FailureGroup := { g with members := [] }

theorem founding_addMember (g : FailureGroup) (build : BuildKey) :
    (g.addMember build).founding = g.founding := by
  unfold addMember
  split <;> rfl

end FailureGroup

/-- What decides which group a failure belongs to. -/
structure FailureTraits where
  build : Build
  kind : FailureKind
  signature : FailureSignature
  window : RegressionWindow

namespace FailureTraits

variable {r : FailureTraits} {g : FailureGroup}

def fits (r : FailureTraits) (g : FailureGroup) : Bool :=
  (g.project = r.build.project && g.kind = r.kind && g.signature = r.signature) &&
    g.window.overlaps r.window

theorem fits_iff :
    r.fits g = true ↔ g.project = r.build.project ∧ g.kind = r.kind ∧
      g.signature = r.signature ∧ g.window.overlaps r.window = true := by
  simp only [fits, Bool.and_eq_true, decide_eq_true_eq, and_assoc]

theorem find?_findGroups (r : FailureTraits) (s : Store) :
    ((s.findGroups r.build.project r.kind r.signature).find? fun g => g.window.overlaps r.window) =
      s.groups.find? r.fits := by
  unfold Store.findGroups
  rw [List.find?_filter]
  congr 1
  funext g
  simp only [fits, Bool.decide_and, Bool.decide_eq_true]

def fits? (r : FailureTraits) (g : FailureGroup) : Option Bool :=
  if g.project = r.build.project ∧ g.kind = r.kind ∧ g.signature = r.signature then
    g.window.overlaps? r.window
  else some false

/-- The first group that a failure fits, if it can be compared with the groups before it. -/
def firstFit? (r : FailureTraits) (groups : List FailureGroup) : Option (Option FailureGroup) :=
  groups.findM? r.fits?

theorem firstFit?_findGroups (r : FailureTraits) (s : Store) :
    ((s.findGroups r.build.project r.kind r.signature).findM? fun g =>
      g.window.overlaps? r.window) = r.firstFit? s.groups := by
  unfold Store.findGroups firstFit?
  induction s.groups with
  | nil => rfl
  | cons g rest ih =>
    by_cases alike : g.project = r.build.project ∧ g.kind = r.kind ∧ g.signature = r.signature
    · rw [List.filter_cons_of_pos (by simp [alike]), List.findM?, List.findM?, ih, fits?,
        if_pos alike]
    · rw [List.filter_cons_of_neg (by simpa [and_assoc] using alike), List.findM?, ih, fits?,
        if_neg alike]
      rfl

theorem fits_of_fits? {answer : Bool} (compared : r.fits? g = some answer) :
    r.fits g = answer := by
  unfold fits? at compared
  split at compared
  · rename_i alike
    simp [fits, alike, RegressionWindow.overlaps?_eq_some compared]
  · rename_i different
    cases compared
    exact Bool.eq_false_iff.mpr fun fits =>
      different ⟨(fits_iff.mp fits).1, (fits_iff.mp fits).2.1, (fits_iff.mp fits).2.2.1⟩

theorem firstFit?_cons (r : FailureTraits) (g : FailureGroup) (rest : List FailureGroup) :
    r.firstFit? (g :: rest) =
      (r.fits? g).bind fun fits => if fits then some (some g) else r.firstFit? rest := by
  unfold firstFit?
  rw [List.findM?]
  rcases r.fits? g with _ | _ | _ <;> rfl

theorem firstFit?_concat {groups : List FailureGroup} (misfit : r.firstFit? groups = some none)
    (g : FailureGroup) :
    r.firstFit? (groups ++ [g]) = (r.fits? g).map fun fits => if fits then some g else none := by
  induction groups with
  | nil =>
    rw [List.nil_append, firstFit?_cons]
    rcases r.fits? g with _ | _ | _ <;> rfl
  | cons first rest ih =>
    rw [firstFit?_cons] at misfit
    rw [List.cons_append, firstFit?_cons]
    rcases passed : r.fits? first with _ | _ | _ <;> rw [passed] at misfit
    · cases misfit
    · exact ih misfit
    · cases misfit

theorem find?_of_firstFit? {found : Option FailureGroup} :
    ∀ {groups : List FailureGroup}, r.firstFit? groups = some found →
      groups.find? r.fits = found
  | [], none_left => Option.some.inj none_left
  | g :: rest, compared => by
    rw [firstFit?_cons] at compared
    rcases fit : r.fits? g with _ | _ | _ <;> rw [fit] at compared
    · cases compared
    · rw [List.find?_cons_of_neg (by simp [fits_of_fits? fit])]
      exact find?_of_firstFit? compared
    · cases compared
      exact List.find?_cons_of_pos (fits_of_fits? fit)

theorem mem_of_firstFit? {groups : List FailureGroup}
    (found : r.firstFit? groups = some (some g)) : g ∈ groups :=
  List.mem_of_find?_eq_some (find?_of_firstFit? found)

/-- A failure that cannot be compared with the groups: one of the windows is unbounded. -/
structure Stops (r : FailureTraits) (groups : List FailureGroup) : Prop where
  signed : r.signature.isEmpty = false
  unbounded : r.firstFit? groups = none

end FailureTraits

structure GroupingRequest extends FailureTraits where
  freshId : GroupId
  now : Instant

namespace GroupingRequest

def run (r : GroupingRequest) (services : Services) : Engine (Option GroupMembership) :=
  findOrCreateGroup services r.freshId r.build r.kind r.signature r.window r.now

def founds (r : GroupingRequest) : FailureGroup :=
  .startedBy r.build r.freshId r.kind r.signature r.window r.now

end GroupingRequest

namespace Store

def foundings (s : Store) : List FailureGroup := s.groups.map (·.founding)

theorem find?_foundings (s : Store) (r : FailureTraits) :
    s.foundings.find? r.fits = (s.groups.find? r.fits).map (·.founding) :=
  List.find?_map ..

theorem ids_foundings (s : Store) : s.foundings.map (·.id) = s.groups.map (·.id) :=
  List.map_map ..

theorem map_founding_replaceGroup {g g' : FailureGroup} (same : g'.founding = g.founding) :
    ∀ {groups : List FailureGroup}, (groups.map (·.id)).Nodup → g ∈ groups →
      (replaceGroup g' groups).map (·.founding) = groups.map (·.founding)
  | first :: rest, unique, member => by
    have sameId : g'.id = g.id := (congrArg FailureGroup.id same :)
    rw [List.map_cons, List.nodup_cons] at unique
    unfold replaceGroup
    rcases List.mem_cons.mp member with rfl | later
    · rw [if_pos sameId.symm, List.map_cons, List.map_cons, same]
    · have other : first.id ≠ g'.id := by
        intro clash
        rw [clash, sameId] at unique
        exact unique.1 (List.mem_map_of_mem later)
      rw [if_neg other, List.map_cons, List.map_cons,
        map_founding_replaceGroup same unique.2 later]

end Store

namespace EngineState

def withGroups (s : EngineState) (groups : List FailureGroup) : EngineState :=
  { s with store := { s.store with groups } }

end EngineState

variable {services : Services} {r : GroupingRequest} {s s' : EngineState}

inductive Grouping (services : Services) (r : GroupingRequest) (s : EngineState) :
    Except AnalysisError (Option GroupMembership) → EngineState → Prop
  | unsigned (empty : r.signature.isEmpty = true) : Grouping services r s (.ok none) s
  /-- An operation of the store failed, or the identifier of the group to be started is taken. -/
  | failed {e : StoreError}
      (cause : services.StoreWorks → r.firstFit? s.store.groups = some none ∧
        ∃ g ∈ s.store.groups, g.id = r.freshId) :
      Grouping services r s (.error (.store e)) s
  | stopped (signed : r.signature.isEmpty = false)
      (unbounded : r.firstFit? s.store.groups = none) :
      Grouping services r s (.error .outOfRange) s
  | own {g : FailureGroup} (signed : r.signature.isEmpty = false)
      (found : r.firstFit? s.store.groups = some (some g)) (own : g.representative = r.build.key) :
      Grouping services r s (.ok (some ⟨g, true⟩)) s
  | known {g : FailureGroup} (signed : r.signature.isEmpty = false)
      (found : r.firstFit? s.store.groups = some (some g)) (others : g.representative ≠ r.build.key)
      (member : r.build.key ∈ g.members) :
      Grouping services r s (.ok (some ⟨g.addMember r.build.key, false⟩))
        (s.counting (.failureGrouped "joined"))
  | joined {g : FailureGroup} (signed : r.signature.isEmpty = false)
      (found : r.firstFit? s.store.groups = some (some g))
      (others : g.representative ≠ r.build.key) :
      Grouping services r s (.ok (some ⟨g.addMember r.build.key, false⟩))
        ((s.withGroups (Store.replaceGroup (g.addMember r.build.key) s.store.groups)).counting
          (.failureGrouped "joined"))
  | started (signed : r.signature.isEmpty = false) (alone : r.firstFit? s.store.groups = some none)
      (fresh : ∀ g ∈ s.store.groups, g.id ≠ r.freshId) :
      Grouping services r s (.ok (some ⟨r.founds, true⟩))
        ((s.withGroups (s.store.groups ++ [r.founds])).counting (.failureGrouped "created"))

theorem Engine.runOn_updateGroup (works : services.storeFault .updateFailureGroup = none)
    {g : FailureGroup} (present : ∃ g' ∈ s.store.groups, g'.id = g.id) :
    (updateGroup services g).runOn s =
      (.ok (), s.withGroups (Store.replaceGroup g s.store.groups)) := by
  have known : s.store.groups.any (fun g' => g'.id = g.id) = true := by
    simpa using present
  unfold updateGroup Store.updateGroup
  rw [runOn_write works, known]
  rfl

theorem Engine.runOn_createGroup (works : services.storeFault .createFailureGroup = none)
    (g : FailureGroup) (s : EngineState) :
    (createGroup services g).runOn s =
      if s.store.groups.any fun g' => g'.id = g.id then
        (.error (.store (.alreadyExists .failureGroup g.id.text)), s)
      else (.ok (), s.withGroups (s.store.groups ++ [g])) := by
  unfold createGroup Store.createGroup
  rw [runOn_write works]
  cases s.store.groups.any fun g' => g'.id = g.id <;> rfl

theorem joinGroup_runOn (services : Services) {g : FailureGroup}
    (signed : r.signature.isEmpty = false) (found : r.firstFit? s.store.groups = some (some g)) :
    let run := (joinGroup services g r.build.key).runOn s
    Grouping services r s (run.1.map some) run.2 := by
  have present : ∃ g' ∈ s.store.groups, g'.id = (g.addMember r.build.key).id :=
    ⟨g, FailureTraits.mem_of_firstFit? found,
      (congrArg FailureGroup.id (g.founding_addMember r.build.key).symm :)⟩
  unfold joinGroup
  by_cases own : g.representative = r.build.key
  · rw [if_pos own]
    exact .own signed found own
  · rw [if_neg own]
    by_cases member : r.build.key ∈ g.members
    · simp only [member, not_true_eq_false, if_false]
      rw [Engine.runOn_bind_ok _ (Engine.runOn_record ..)]
      exact .known signed found own member
    · simp only [member, not_false_eq_true, if_true]
      cases fault : services.storeFault .updateFailureGroup with
      | some reason =>
        have failed : (Engine.updateGroup services (g.addMember r.build.key)).runOn s =
            (.error (.store (.backend reason)), s) := Engine.runOn_write_fault fault ..
        rw [Engine.runOn_bind_error _ failed]
        exact .failed fun works => nomatch (works _).symm.trans fault
      | none =>
        rw [Engine.runOn_bind_ok _ (Engine.runOn_updateGroup fault present),
          Engine.runOn_bind_ok _ (Engine.runOn_record ..)]
        exact .joined signed found own

/-- Whatever operations of the store fail, grouping a failure comes to one of these. -/
theorem GroupingRequest.run_runOn (services : Services) (r : GroupingRequest) (s : EngineState) :
    let run := (r.run services).runOn s
    Grouping services r s run.1 run.2 := by
  unfold run findOrCreateGroup Engine.findGroups
  cases signed : r.signature.isEmpty with
  | true => exact .unsigned signed
  | false =>
    simp only [Bool.false_eq_true, if_false]
    cases unreadable : services.storeFault .findFailureGroups with
    | some reason =>
      rw [Engine.runOn_bind_error _ (Engine.runOn_read_fault unreadable ..)]
      exact .failed fun works => nomatch (works _).symm.trans unreadable
    | none =>
      rw [Engine.runOn_bind_ok _ (Engine.runOn_read unreadable ..), r.firstFit?_findGroups]
      rcases found : r.firstFit? s.store.groups with _ | _ | g
      · exact .stopped signed found
      · dsimp only
        rw [← founds, Engine.runOn_bind]
        cases fault : services.storeFault .createFailureGroup with
        | some reason =>
          have failed : (Engine.createGroup services r.founds).runOn s =
              (.error (.store (.backend reason)), s) := Engine.runOn_write_fault fault ..
          rw [failed]
          exact .failed fun works => nomatch (works _).symm.trans fault
        | none =>
          rw [Engine.runOn_createGroup fault]
          cases taken : s.store.groups.any fun g => g.id = r.founds.id with
          | true =>
            obtain ⟨g, member, same⟩ := List.any_eq_true.mp taken
            exact .failed fun _ => ⟨found, g, member, of_decide_eq_true same⟩
          | false =>
            exact .started signed found fun g member same =>
              List.any_eq_false.mp taken g member (decide_eq_true same)
      · have joined := joinGroup_runOn services signed found
        dsimp only at joined ⊢
        rw [Engine.runOn_bind]
        generalize (joinGroup services g r.build.key).runOn s = run at joined ⊢
        obtain ⟨_ | _, _⟩ := run <;> exact joined

theorem Grouping.stopped_iff {answer : Except AnalysisError (Option GroupMembership)}
    (works : services.StoreWorks) (grouping : Grouping services r s answer s') :
    answer = .error .outOfRange ↔ r.Stops s.store.groups := by
  cases grouping with
  | unsigned empty => exact ⟨nofun, fun stops => nomatch stops.signed.symm.trans empty⟩
  | failed cause =>
    exact ⟨nofun, fun stops => nomatch (cause works).1.symm.trans stops.unbounded⟩
  | stopped signed unbounded => exact ⟨fun _ => ⟨signed, unbounded⟩, fun _ => rfl⟩
  | own _ found | known _ found | joined _ found | started _ found =>
    exact ⟨nofun, fun stops => nomatch found.symm.trans stops.unbounded⟩

theorem Grouping.foundings {answer : Except AnalysisError (Option GroupMembership)}
    (grouping : Grouping services r s answer s') (unique : (s.store.groups.map (·.id)).Nodup) :
    s'.store.foundings = s.store.foundings ∨
      s.store.foundings.find? r.fits = none ∧ (∀ g ∈ s.store.groups, g.id ≠ r.freshId) ∧
        s'.store.foundings = s.store.foundings ++ [r.founds.founding] := by
  cases grouping with
  | joined signed found others =>
    exact .inl (Store.map_founding_replaceGroup (FailureGroup.founding_addMember ..) unique
      (FailureTraits.mem_of_firstFit? found))
  | started signed alone fresh =>
    refine .inr ⟨?_, fresh, List.map_append ..⟩
    rw [Store.find?_foundings, FailureTraits.find?_of_firstFit? alone]
    rfl
  | _ => exact .inl rfl

theorem Grouping.unique {answer : Except AnalysisError (Option GroupMembership)}
    (grouping : Grouping services r s answer s') (unique : (s.store.groups.map (·.id)).Nodup) :
    (s'.store.groups.map (·.id)).Nodup := by
  rw [← Store.ids_foundings] at unique ⊢
  rcases grouping.foundings (Store.ids_foundings _ ▸ unique) with same | ⟨-, fresh, added⟩
  · rwa [same]
  · have absent : r.freshId ∉ s.store.foundings.map (·.id) := by
      intro member
      rw [Store.ids_foundings] at member
      obtain ⟨g, member, same⟩ := List.mem_map.mp member
      exact fresh g member same
    rw [added, List.map_append, List.map_singleton, ← List.concat_eq_append]
    exact .concat absent unique

end CulpritFinding
