import CulpritFinding.Analyzer
import CulpritFinding.Proofs.Engine

namespace CulpritFinding

namespace EngineState

structure SameTryJobs (before after : EngineState) : Prop where
  tryJobs : after.store.tryJobs = before.store.tryJobs
  owners : after.store.tryJobOwners = before.store.tryJobOwners
  submissions : after.submissions = before.submissions

structure SameRecords (before after : EngineState) : Prop extends SameTryJobs before after where
  analyses : after.store.analyses = before.store.analyses

/-- The second state has an analysis written under its key, and differs otherwise at most in its
groups and counts. -/
structure Saves (before : EngineState) (a : Analysis) (after : EngineState) : Prop
    extends SameTryJobs before after where
  analysis? : ∀ key,
    after.store.analysis? key = if a.key = key then some a else before.store.analysis? key

variable {before middle after : EngineState} {a b : Analysis} {key : FailureKey}

theorem SameTryJobs.tryJob? (same : before.SameTryJobs after) (key : FailureKey) :
    after.store.tryJob? key = before.store.tryJob? key := by
  unfold Store.tryJob?
  rw [same.tryJobs]

theorem SameTryJobs.refl (s : EngineState) : s.SameTryJobs s := ⟨rfl, rfl, rfl⟩

theorem SameTryJobs.trans (first : before.SameTryJobs middle) (second : middle.SameTryJobs after) :
    before.SameTryJobs after :=
  ⟨second.tryJobs.trans first.tryJobs, second.owners.trans first.owners,
    second.submissions.trans first.submissions⟩

theorem SameRecords.refl (s : EngineState) : s.SameRecords s := ⟨.refl s, rfl⟩

theorem SameRecords.trans (first : before.SameRecords middle) (second : middle.SameRecords after) :
    before.SameRecords after :=
  ⟨first.toSameTryJobs.trans second.toSameTryJobs, second.analyses.trans first.analyses⟩

theorem SameRecords.analysis? (same : before.SameRecords after) (key : FailureKey) :
    after.store.analysis? key = before.store.analysis? key := by
  unfold Store.analysis?
  rw [same.analyses]

theorem sameRecords_counting (s : EngineState) (event : Metric) :
    s.SameRecords (s.counting event) := ⟨⟨rfl, rfl, rfl⟩, rfl⟩

theorem saves_withAnalysis (s : EngineState) (a : Analysis) : s.Saves a (s.withAnalysis a) :=
  ⟨⟨rfl, rfl, rfl⟩, s.analysis?_withAnalysis a⟩

theorem Saves.stored (saved : before.Saves a after) : after.store.analysis? a.key = some a := by
  rw [saved.analysis?, if_pos rfl]

theorem Saves.present (saved : before.Saves a after) (same : a.key = key) :
    (after.store.analysis? key).isSome := by
  rw [← same, saved.stored]
  rfl

theorem Saves.keep (saved : before.Saves a middle) (kept : middle.SameRecords after) :
    before.Saves a after := by
  refine ⟨saved.toSameTryJobs.trans kept.toSameTryJobs, fun key => ?_⟩
  rw [kept.analysis?, saved.analysis?]

theorem SameRecords.saves (same : before.SameRecords after) (a : Analysis) :
    before.Saves a (after.withAnalysis a) := by
  refine ⟨⟨same.tryJobs, same.owners, same.submissions⟩, fun key => ?_⟩
  rw [analysis?_withAnalysis, same.analysis?]

theorem Saves.again (first : before.Saves a middle) (second : middle.Saves b after)
    (same : b.key = a.key) : before.Saves b after := by
  refine ⟨first.toSameTryJobs.trans second.toSameTryJobs, fun key => ?_⟩
  rw [second.analysis?, first.analysis?, same]
  split <;> rfl

end EngineState

namespace Engine

variable {α β : Type} {x : Engine α} {services : Services}

/-- An action that leaves all analyses and try jobs as they are, and asks the scheduler nothing,
however it ends. -/
def KeepsRecords (x : Engine α) : Prop :=
  ∀ s : EngineState, s.SameRecords (x.runOn s).2

theorem keepsRecords_pure (a : α) : (pure a : Engine α).KeepsRecords := fun s => .refl s

theorem keepsRecords_throw (e : AnalysisError) : (throw e : Engine α).KeepsRecords :=
  fun s => .refl s

theorem keepsRecords_record (event : Metric) : (record event).KeepsRecords :=
  fun s => s.sameRecords_counting event

theorem KeepsRecords.bind {f : α → Engine β} (first : x.KeepsRecords)
    (next : ∀ a, (f a).KeepsRecords) : (x >>= f).KeepsRecords := by
  intro s
  have kept := first s
  rw [runOn_bind]
  rcases run : x.runOn s with ⟨_ | a, middle⟩ <;> rw [run] at kept
  · exact kept
  · exact kept.trans (next a middle)

theorem keepsRecords_access (method : StoreMethod)
    (operation : Store → Except StoreError (α × Store))
    (keeps : ∀ store answer result, operation store = .ok (answer, result) →
      result.analyses = store.analyses ∧ result.tryJobs = store.tryJobs ∧
        result.tryJobOwners = store.tryJobOwners) :
    (access services method operation).KeepsRecords := by
  intro s
  cases fault : services.storeFault method with
  | some reason =>
    rw [runOn_access_fault fault]
    exact .refl s
  | none =>
    rw [runOn_access fault]
    cases done : operation s.store with
    | error e => exact .refl s
    | ok result =>
      obtain ⟨analyses, tryJobs, owners⟩ := keeps _ _ _ done
      exact ⟨⟨tryJobs, owners, rfl⟩, analyses⟩

theorem keepsRecords_write (method : StoreMethod) (change : Store → Except StoreError Store)
    (keeps : ∀ store result, change store = .ok result →
      result.analyses = store.analyses ∧ result.tryJobs = store.tryJobs ∧
        result.tryJobOwners = store.tryJobOwners) :
    (write services method change).KeepsRecords := by
  apply keepsRecords_access
  intro store answer result done
  cases changed : change store with
  | error e =>
    rw [changed] at done
    cases done
  | ok written =>
    rw [changed] at done
    cases done
    exact keeps _ _ changed

theorem keepsRecords_createGroup (g : FailureGroup) : (createGroup services g).KeepsRecords := by
  apply keepsRecords_write
  intro store result done
  unfold Store.createGroup at done
  split at done <;> cases done
  exact ⟨rfl, rfl, rfl⟩

theorem keepsRecords_updateGroup (g : FailureGroup) : (updateGroup services g).KeepsRecords := by
  apply keepsRecords_write
  intro store result done
  unfold Store.updateGroup at done
  split at done <;> cases done
  exact ⟨rfl, rfl, rfl⟩

theorem keepsRecords_findGroups (project : String) (kind : FailureKind)
    (signature : FailureSignature) : (findGroups services project kind signature).KeepsRecords := by
  apply keepsRecords_access
  intro store answer result done
  cases done
  exact ⟨rfl, rfl, rfl⟩

end Engine

open Engine

variable {services : Services}

theorem joinGroup_keepsRecords (group : FailureGroup) (build : BuildKey) :
    (joinGroup services group build).KeepsRecords := by
  unfold joinGroup
  split
  · exact keepsRecords_pure _
  · have counted : ∀ joined : FailureGroup,
        (do record (.failureGrouped "joined")
            return (⟨joined, false⟩ : GroupMembership) : Engine GroupMembership).KeepsRecords :=
      fun joined => (keepsRecords_record _).bind fun _ => keepsRecords_pure _
    dsimp only
    split
    · exact (keepsRecords_updateGroup _).bind fun _ => counted _
    · exact counted _

theorem findOrCreateGroup_keepsRecords (services : Services) (freshId : GroupId) (build : Build)
    (kind : FailureKind) (signature : FailureSignature) (window : RegressionWindow)
    (now : Instant) :
    (findOrCreateGroup services freshId build kind signature window now).KeepsRecords := by
  unfold findOrCreateGroup
  split
  · exact keepsRecords_pure _
  · apply (keepsRecords_findGroups _ _ _).bind
    intro candidates
    split
    · exact keepsRecords_throw _
    · exact (joinGroup_keepsRecords _ _).bind fun _ => keepsRecords_pure _
    · exact (keepsRecords_createGroup _).bind fun _ =>
        (keepsRecords_record _).bind fun _ => keepsRecords_pure _

theorem groupFailure_runOn (services : Services) (request : AnalysisRequest) (build : Build)
    (range : RegressionRange) (signals : FailureSignals) (s : EngineState) :
    ∃ answer after,
      (groupFailure services request build range signals).runOn s = (answer, after) ∧
        s.SameRecords after ∧ ∀ e, answer = .error e → e = .outOfRange := by
  unfold groupFailure
  cases range.window? with
  | none => exact ⟨_, s, rfl, .refl s, nofun⟩
  | some window =>
    have kept := findOrCreateGroup_keepsRecords services request.freshGroupId build
      request.key.kind (request.key.kind.signature range.failedSteps signals) window request.start s
    dsimp only
    rw [runOn_tryCatch]
    rcases run : Engine.runOn _ s with ⟨e | membership, after⟩ <;> rw [run] at kept
    · dsimp only
      split
      · exact ⟨_, after, runOn_throw .., kept, fun _ same => (Except.error.inj same).symm⟩
      · exact ⟨_, after, runOn_pure .., kept, nofun⟩
    · exact ⟨_, after, rfl, kept, nofun⟩

end CulpritFinding
