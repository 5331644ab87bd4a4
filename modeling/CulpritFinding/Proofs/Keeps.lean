import CulpritFinding.Proofs.Analysis.Frames

namespace CulpritFinding

namespace Engine

variable {α β : Type} {services : Services} {kept : Store → Prop}

/-- However an action ends, it leaves a store as required if it finds one. -/
structure Keeps (kept : Store → Prop) (x : Engine α) : Prop where
  runOn : ∀ s : EngineState, kept s.store → kept (x.runOn s).2.store

theorem keeps_pure (a : α) : (pure a : Engine α).Keeps kept := ⟨fun _ ok => ok⟩

theorem keeps_throw (e : AnalysisError) : (throw e : Engine α).Keeps kept := ⟨fun _ ok => ok⟩

theorem keeps_record (event : Metric) : (record event).Keeps kept := ⟨fun _ ok => ok⟩

theorem Keeps.bind {x : Engine α} {f : α → Engine β} (first : x.Keeps kept)
    (next : ∀ a, (f a).Keeps kept) : (x >>= f).Keeps kept := by
  refine ⟨fun s ok => ?_⟩
  have left := first.runOn s ok
  rw [runOn_bind]
  rcases run : x.runOn s with ⟨_ | a, middle⟩ <;> rw [run] at left
  · exact left
  · exact (next a).runOn middle left

theorem Keeps.map {x : Engine α} (first : x.Keeps kept) (f : α → β) : (f <$> x).Keeps kept := by
  rw [map_eq_pure_bind]
  exact first.bind fun _ => keeps_pure _

theorem Keeps.tryCatch {x : Engine α} {f : AnalysisError → Engine α} (first : x.Keeps kept)
    (handled : ∀ e, (f e).Keeps kept) : (tryCatch x f).Keeps kept := by
  refine ⟨fun s ok => ?_⟩
  have left := first.runOn s ok
  rw [runOn_tryCatch]
  rcases run : x.runOn s with ⟨e | a, middle⟩ <;> rw [run] at left
  · exact (handled e).runOn middle left
  · exact left

theorem keeps_access (method : StoreMethod) {operation : Store → Except StoreError (α × Store)}
    (keeps : ∀ store answer result, kept store → operation store = .ok (answer, result) →
      kept result) : (access services method operation).Keeps kept := by
  refine ⟨fun s ok => ?_⟩
  cases fault : services.storeFault method with
  | some reason =>
    rw [runOn_access_fault fault]
    exact ok
  | none =>
    rw [runOn_access fault]
    cases done : operation s.store with
    | error e => exact ok
    | ok result => exact keeps _ _ _ ok done

theorem keeps_read (method : StoreMethod) (question : Store → α) :
    (read services method question).Keeps kept := by
  apply keeps_access
  intro store answer result ok done
  cases done
  exact ok

theorem keeps_read_bind (method : StoreMethod) {question : Store → α} {next : α → Engine β}
    (keeps : ∀ store, kept store → (next (question store)).Keeps kept) :
    (read services method question >>= next).Keeps kept := by
  refine ⟨fun s ok => ?_⟩
  cases fault : services.storeFault method with
  | some reason =>
    rw [runOn_bind_error _ (runOn_read_fault fault ..)]
    exact ok
  | none =>
    rw [runOn_bind_ok _ (runOn_read fault ..)]
    exact (keeps s.store ok).runOn s ok

theorem keeps_write (method : StoreMethod) {change : Store → Except StoreError Store}
    (keeps : ∀ store result, kept store → change store = .ok result → kept result) :
    (write services method change).Keeps kept := by
  apply keeps_access
  intro store answer result ok done
  cases changed : change store <;> rw [changed] at done <;> cases done
  exact keeps _ _ ok changed

theorem keeps_updateAnalysis {a : Analysis}
    (keeps : ∀ s : EngineState, kept s.store → kept (s.withAnalysis a).store) :
    (updateAnalysis services a).Keeps kept := by
  apply keeps_write
  intro store result ok done
  unfold Store.updateAnalysis at done
  split at done <;> cases done
  exact keeps ⟨store, [], []⟩ ok

theorem keeps_saveAnalysis {a : Analysis}
    (keeps : ∀ s : EngineState, kept s.store → kept (s.withAnalysis a).store) :
    (saveAnalysis services a).Keeps kept := by
  refine Keeps.tryCatch ?_ fun e => ?_
  · apply keeps_write
    intro store result ok done
    unfold Store.createAnalysis at done
    split at done <;> cases done
    exact keeps ⟨store, [], []⟩ ok
  · split
    · exact keeps_updateAnalysis keeps
    · exact keeps_throw _

end Engine

end CulpritFinding
