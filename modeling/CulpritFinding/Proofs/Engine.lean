import CulpritFinding.Engine

namespace CulpritFinding

def Services.StoreWorks (services : Services) : Prop :=
  ∀ method, services.storeFault method = none

structure Services.AnalysesWork (services : Services) : Prop where
  get : services.storeFault .getAnalysis = none
  create : services.storeFault .createAnalysis = none
  update : services.storeFault .updateAnalysis = none

theorem Services.StoreWorks.analyses {services : Services} (works : services.StoreWorks) :
    services.AnalysesWork := ⟨works _, works _, works _⟩

namespace EngineState

def counting (s : EngineState) (event : Metric) : EngineState :=
  { s with metrics := s.metrics ++ [event] }

def withAnalysis (s : EngineState) (a : Analysis) : EngineState :=
  { s with store := { s.store with analyses := s.store.analyses.put a.key a } }

theorem analysis?_withAnalysis (s : EngineState) (a : Analysis) (key : FailureKey) :
    (s.withAnalysis a).store.analysis? key =
      if a.key = key then some a else s.store.analysis? key :=
  Table.get?_put ..

end EngineState

namespace Engine

variable {α β : Type} {services : Services} {s s' : EngineState}

def runOn (x : Engine α) (s : EngineState) : Except AnalysisError α × EngineState := x.run.run s

theorem runOn_pure (a : α) (s : EngineState) : (pure a : Engine α).runOn s = (.ok a, s) := rfl

theorem runOn_throw (e : AnalysisError) (s : EngineState) :
    (throw e : Engine α).runOn s = (.error e, s) := rfl

theorem runOn_lift (x : Engine α) (s : EngineState) :
    Engine.runOn (ExceptT.lift x.run) s = (.ok (x.runOn s).1, (x.runOn s).2) := rfl

theorem runOn_bind (x : Engine α) (f : α → Engine β) (s : EngineState) :
    (x >>= f).runOn s =
      match x.runOn s with
      | (.ok a, s') => (f a).runOn s'
      | (.error e, s') => (.error e, s') := by
  rcases run : x.runOn s with ⟨_ | _, _⟩ <;>
  · have run : x.run.run s = _ := run
    simp only [runOn, ExceptT.run_bind, StateT.run_bind, run]
    rfl

theorem runOn_bind_ok {x : Engine α} {a : α} (f : α → Engine β)
    (run : x.runOn s = (.ok a, s')) : (x >>= f).runOn s = (f a).runOn s' := by
  rw [runOn_bind, run]

theorem runOn_bind_error {x : Engine α} {e : AnalysisError} (f : α → Engine β)
    (run : x.runOn s = (.error e, s')) : (x >>= f).runOn s = (.error e, s') := by
  rw [runOn_bind, run]

theorem runOn_tryCatch (x : Engine α) (f : AnalysisError → Engine α) (s : EngineState) :
    (tryCatch x f).runOn s =
      match x.runOn s with
      | (.ok a, s') => (.ok a, s')
      | (.error e, s') => (f e).runOn s' := by
  rcases run : x.runOn s with ⟨_ | _, _⟩ <;>
  · have run : x.run.run s = _ := run
    simp only [runOn, ExceptT.run_tryCatch, StateT.run_bind, run]
    rfl

theorem runOn_get (s : EngineState) : (get : Engine EngineState).runOn s = (.ok s, s) := rfl

theorem runOn_record (event : Metric) (s : EngineState) :
    (record event).runOn s = (.ok (), s.counting event) := rfl

theorem runOn_submit (services : Services) (request : TryJobRequest) (s : EngineState) :
    (submit services request).runOn s =
      (.ok (services.scheduler.trigger request),
        { s with
          submissions := s.submissions ++ [⟨request, services.scheduler.trigger request⟩] }) := rfl

theorem runOn_access_fault {method : StoreMethod} {reason : String}
    (fault : services.storeFault method = some reason)
    (operation : Store → Except StoreError (α × Store)) (s : EngineState) :
    (access services method operation).runOn s = (.error (.store (.backend reason)), s) := by
  unfold access
  rw [fault]
  rfl

theorem runOn_access {method : StoreMethod} (works : services.storeFault method = none)
    (operation : Store → Except StoreError (α × Store)) (s : EngineState) :
    (access services method operation).runOn s =
      match operation s.store with
      | .ok (answer, store) => (.ok answer, { s with store })
      | .error e => (.error (.store e), s) := by
  unfold access
  rw [works, runOn_bind_ok _ (runOn_get s)]
  dsimp only
  rcases operation s.store with _ | ⟨_, _⟩ <;> rfl

theorem runOn_read {method : StoreMethod} (works : services.storeFault method = none)
    (question : Store → α) (s : EngineState) :
    (read services method question).runOn s = (.ok (question s.store), s) :=
  runOn_access works ..

theorem runOn_read_fault {method : StoreMethod} {reason : String}
    (fault : services.storeFault method = some reason) (question : Store → α) (s : EngineState) :
    (read services method question).runOn s = (.error (.store (.backend reason)), s) :=
  runOn_access_fault fault ..

theorem runOn_write_fault {method : StoreMethod} {reason : String}
    (fault : services.storeFault method = some reason)
    (change : Store → Except StoreError Store) (s : EngineState) :
    (write services method change).runOn s = (.error (.store (.backend reason)), s) :=
  runOn_access_fault fault ..

theorem runOn_write {method : StoreMethod} (works : services.storeFault method = none)
    (change : Store → Except StoreError Store) (s : EngineState) :
    (write services method change).runOn s =
      match change s.store with
      | .ok store => (.ok (), { s with store })
      | .error e => (.error (.store e), s) := by
  unfold write
  rw [runOn_access works]
  rcases change s.store <;> rfl

theorem runOn_createAnalysis (works : services.storeFault .createAnalysis = none) (a : Analysis)
    (s : EngineState) :
    (createAnalysis services a).runOn s =
      if (s.store.analysis? a.key).isSome then
        (.error (.store (.alreadyExists .analysis a.key.text)), s)
      else (.ok (), s.withAnalysis a) := by
  unfold createAnalysis
  rw [runOn_write works]
  by_cases present : (s.store.analysis? a.key).isSome
  · have taken : (s.store.analyses.get? a.key).isSome := present
    simp only [Store.createAnalysis, taken, present, if_true]
  · have free : ¬ (s.store.analyses.get? a.key).isSome := present
    simp only [Store.createAnalysis, free, present]
    rfl

theorem runOn_updateAnalysis (works : services.storeFault .updateAnalysis = none)
    (a : Analysis) (present : (s.store.analysis? a.key).isSome) :
    (updateAnalysis services a).runOn s = (.ok (), s.withAnalysis a) := by
  have taken : (s.store.analyses.get? a.key).isSome := present
  unfold updateAnalysis
  rw [runOn_write works]
  simp only [Store.updateAnalysis, taken, if_true]
  rfl

theorem runOn_saveAnalysis (works : services.AnalysesWork) (a : Analysis) (s : EngineState) :
    (saveAnalysis services a).runOn s = (.ok (), s.withAnalysis a) := by
  unfold saveAnalysis
  rw [runOn_tryCatch, runOn_createAnalysis works.create]
  by_cases present : (s.store.analysis? a.key).isSome
  · simp only [present, if_true]
    exact runOn_updateAnalysis works.update a present
  · simp only [present]
    rfl

structure Silent (x : Engine α) : Prop where
  submissions : ∀ s : EngineState, (x.runOn s).2.submissions = s.submissions

theorem silent_pure (a : α) : (pure a : Engine α).Silent := ⟨fun _ => rfl⟩

theorem silent_throw (e : AnalysisError) : (throw e : Engine α).Silent := ⟨fun _ => rfl⟩

theorem silent_record (event : Metric) : (record event).Silent := ⟨fun _ => rfl⟩

theorem Silent.bind {x : Engine α} {f : α → Engine β} (first : x.Silent)
    (next : ∀ a, (f a).Silent) : (x >>= f).Silent := by
  refine ⟨fun s => ?_⟩
  have silent := first.submissions s
  rw [runOn_bind]
  rcases run : x.runOn s with ⟨_ | a, middle⟩ <;> rw [run] at silent
  · exact silent
  · exact ((next a).submissions middle).trans silent

theorem silent_write (method : StoreMethod) (change : Store → Except StoreError Store) :
    (write services method change).Silent := by
  refine ⟨fun s => ?_⟩
  cases fault : services.storeFault method with
  | some reason => rw [runOn_write_fault fault]
  | none =>
    rw [runOn_write fault]
    cases change s.store <;> rfl

theorem silent_updateAnalysis (services : Services) (a : Analysis) :
    (updateAnalysis services a).Silent := silent_write ..

end Engine

end CulpritFinding
