import CulpritFinding.Proofs.Analysis.Grouping

namespace CulpritFinding

/-- A failure that joins no group of another build. Where positions are out of order, a group need
not overlap the failure that started it. -/
inductive FailureTraits.Speaks (r : FailureTraits) (groups : List FailureGroup) : Prop
  | unsigned (empty : r.signature.isEmpty = true)
  | own {g : FailureGroup} (found : groups.find? r.fits = some g)
      (own : g.representative = r.build.key)
  | alone {g : FailureGroup} (alone : groups.find? r.fits = none) (started : g ∈ groups)
      (project : g.project = r.build.project) (kind : g.kind = r.kind)
      (signature : g.signature = r.signature) (window : g.window = r.window)

variable {services : Services} {r : FailureTraits} {s s' : EngineState}

theorem FailureTraits.Speaks.groupToJoin? {s : Store} (speaks : r.Speaks s.foundings) :
    ∀ g ∈ s.groupToJoin? r.build r.kind r.signature r.window, g.representative = r.build.key := by
  intro g found
  unfold Store.groupToJoin? at found
  rw [r.find?_findGroups] at found
  split at found
  · cases found
  · rename_i signed
    have founding := s.find?_foundings r
    rw [Option.mem_def.mp found] at founding
    cases speaks with
    | unsigned empty => exact absurd empty signed
    | own found own =>
      cases found.symm.trans founding
      exact own
    | alone alone => cases alone.symm.trans founding

/-- Another failure is put into a group that is there, or starts one that this failure does not fit:
else it would fit the group that this failure has started. -/
theorem FailureTraits.Speaks.grouping {other : GroupingRequest}
    {answer : Except AnalysisError (Option GroupMembership)} (speaks : r.Speaks s.store.foundings)
    (grouping : Grouping services other s answer s')
    (unique : (s.store.groups.map (·.id)).Nodup) : r.Speaks s'.store.foundings := by
  rcases grouping.foundings unique with same | ⟨misfit, -, added⟩
  · rwa [same]
  · rw [added]
    cases speaks with
    | unsigned empty => exact .unsigned empty
    | own found own => exact .own (by rw [List.find?_append, found]; rfl) own
    | @alone g alone started project kind signature window =>
      refine .alone ?_ (List.mem_append_left _ started) project kind signature window
      have apart : r.fits other.founds.founding = false := by
        refine Bool.eq_false_iff.mpr fun fits => ?_
        obtain ⟨sameProject, sameKind, sameSignature, overlap⟩ := fits_iff.mp fits
        refine List.find?_eq_none.mp misfit g started (fits_iff.mpr ⟨project.trans sameProject.symm,
          kind.trans sameKind.symm, signature.trans sameSignature.symm, ?_⟩)
        rw [window, RegressionWindow.overlaps_comm]
        exact overlap
      rw [List.find?_append, alone]
      simp [apart]

theorem Grouping.speaks {r : GroupingRequest}
    {answer : Except AnalysisError (Option GroupMembership)} (works : services.StoreWorks)
    (fresh : ∀ g ∈ s.store.groups, g.id ≠ r.freshId)
    (grouping : Grouping services r s answer s') (compared : answer ≠ .error .outOfRange)
    (alone : joinedOthers answer.toOption.join = false) : r.Speaks s'.store.foundings := by
  cases grouping with
  | unsigned empty => exact .unsigned empty
  | failed cause =>
    obtain ⟨-, g, member, taken⟩ := cause works
    exact absurd taken (fresh g member)
  | stopped => exact absurd rfl compared
  | own signed found own =>
    refine .own ((s.store.find?_foundings _).trans
      (congrArg (Option.map _) (FailureTraits.find?_of_firstFit? found))) ?_
    exact own
  | known => cases alone
  | joined => cases alone
  | started signed misfit =>
    have founded : (s.store.groups ++ [r.founds]).map (·.founding) =
        s.store.foundings ++ [r.founds.founding] := List.map_append ..
    have misfit : s.store.foundings.find? r.fits = none := by
      rw [Store.find?_foundings, FailureTraits.find?_of_firstFit? misfit]
      rfl
    change r.Speaks ((s.store.groups ++ [r.founds]).map (·.founding))
    rw [founded]
    cases fits : r.fits r.founds.founding with
    | true =>
      refine .own (g := r.founds.founding) ?_ rfl
      rw [List.find?_append, misfit]
      simp [fits]
    | false =>
      refine .alone (g := r.founds.founding) ?_ List.mem_concat_self rfl rfl rfl rfl
      rw [List.find?_append, misfit]
      simp [fits]

end CulpritFinding
