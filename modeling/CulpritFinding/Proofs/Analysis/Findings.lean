import CulpritFinding.Proofs.Analysis.Stages
import CulpritFinding.Proofs.Run

namespace CulpritFinding

def Analysis.findings (a : Analysis) : Analysis := { a with tryJobPhase := .notNeeded }

/-- Two stores that agree but for the try job of a failure, and for the phase in which the analysis
of the failure has it. -/
structure Store.SameFindings (key : FailureKey) (s s' : Store) : Prop where
  groups : s'.groups = s.groups
  findings : (s'.analysis? key).map (·.findings) = (s.analysis? key).map (·.findings)
  analyses : ∀ k, key ≠ k → s'.analysis? k = s.analysis? k
  tryJobs : ∀ k, key ≠ k → s'.tryJob? k = s.tryJob? k

namespace Store.SameFindings

variable {key : FailureKey} {s s' s'' : Store}

theorem refl (key : FailureKey) (s : Store) : SameFindings key s s :=
  ⟨rfl, rfl, fun _ _ => rfl, fun _ _ => rfl⟩

theorem symm (same : SameFindings key s s') : SameFindings key s' s :=
  ⟨same.groups.symm, same.findings.symm, fun k other => (same.analyses k other).symm,
    fun k other => (same.tryJobs k other).symm⟩

theorem trans (first : SameFindings key s s') (second : SameFindings key s' s'') :
    SameFindings key s s'' :=
  ⟨second.groups.trans first.groups, second.findings.trans first.findings,
    fun k other => (second.analyses k other).trans (first.analyses k other),
    fun k other => (second.tryJobs k other).trans (first.tryJobs k other)⟩

end Store.SameFindings

open Engine EngineState

variable {services : Services} {request : AnalysisRequest} {s s' : EngineState} {a : Analysis}

def Engine.Alike {α : Type} (key : FailureKey) (x y : Engine α) (s : EngineState) : Prop :=
  (x.runOn s).2.store.SameFindings key (y.runOn s).2.store

theorem Engine.Alike.bind {α β : Type} {key : FailureKey} {p : Engine α} {f g : α → Engine β}
    (next : ∀ v s', p.runOn s = (.ok v, s') → Alike key (f v) (g v) s') :
    Alike key (p >>= f) (p >>= g) s := by
  unfold Alike
  rw [runOn_bind, runOn_bind]
  rcases run : p.runOn s with ⟨e | v, middle⟩
  · exact .refl ..
  · exact next v middle run

theorem orAbort_ok {α : Type} {r : Except AnalysisError α} {now : Instant} {v : α}
    (run : (orAbort services a now r).runOn s = (.ok v, s')) : s' = s := by
  cases r with
  | ok _ =>
    cases run
    rfl
  | error e =>
    by_cases stopped : e = .outOfRange
    · subst stopped
      cases run
    · rw [orAbort_error stopped] at run
      unfold abortAnalysis at run
      rw [runOn_bind] at run
      split at run
      · rw [runOn_bind_ok _ (runOn_record ..), runOn_throw] at run
        cases run
      · cases run

theorem verifyFailure_sameFindings (keyed : s.store.Keyed) (key : a.key = request.key)
    (stored : s.store.analysis? request.key = some a) (build : Build) (range : RegressionRange)
    (signals : FailureSignals) (membership : Option GroupMembership) :
    s.store.SameFindings request.key
      ((verifyFailure services request a build range signals membership).runOn s).2.store := by
  have saves : Engine.Saves services
      (fun store => store.Keyed ∧ s.store.SameFindings request.key store)
      fun b => b.key = request.key ∧ b.findings = a.findings := by
    refine ⟨fun {b} fits => ?_, fun fits _ => fits⟩
    apply keeps_updateAnalysis
    rintro middle ⟨keyed, same⟩
    refine ⟨EngineState.withAnalysis_keyed keyed b, same.groups, ?_, fun k other => ?_,
      same.tryJobs⟩
    · rw [EngineState.analysis?_withAnalysis, if_pos fits.1, stored]
      exact congrArg some fits.2
    · rw [EngineState.analysis?_withAnalysis, fits.1, if_neg other]
      exact same.analyses k other
  have schedule (range : TryJobRange) (suspects : List Suspect) (now : Instant) :
      (scheduleTryJob services request.key range suspects now).Keeps
        fun store => store.Keyed ∧ s.store.SameFindings request.key store := by
    refine ⟨fun middle ⟨keyed, same⟩ => ?_⟩
    have scheduling := scheduleTryJob_runOn services keyed request.key range suspects now
    have analyses (k : FailureKey) := congrArg (fun t : Table .. => t.get? k)
      scheduling.sameAnalyses
    refine ⟨scheduling.keyed keyed, scheduling.sameGroups.trans same.groups, ?_,
      fun k other => ?_, fun k other => ?_⟩
    · exact (congrArg (Option.map (·.findings)) (analyses _)).trans same.findings
    · exact (analyses k).trans (same.analyses k other)
    · exact (scheduling.others keyed other).trans (same.tryJobs k other)
  exact ((verifyFailure_keeps saves schedule ⟨key, rfl⟩ build range signals membership).runOn s
    ⟨keyed, .refl ..⟩).2

section

variable (works : services.StoreWorks) (scheduler : Scheduler)

include works

theorem concludeSteps_alike (keyed : s.store.Keyed) (key : a.key = request.key)
    (present : (s.store.analysis? request.key).isSome) (build : Build) (range : RegressionRange)
    (signals : FailureSignals) (membership : Option GroupMembership) :
    Alike request.key (concludeSteps services request a build range signals membership)
      (concludeSteps { services with scheduler } request a build range signals membership) s := by
  unfold concludeSteps
  dsimp only
  have key : (a.complete a.heuristicResult request.finish).key = request.key := key
  generalize a.complete a.heuristicResult request.finish = ended at key ⊢
  refine Alike.bind (p := finishAnalysis services ended _) fun _ after run => ?_
  obtain ⟨_, finished, saved, -⟩ := finishAnalysis_runOn (works _) AnalysisStatus.completed.text
    (a := ended) (key ▸ present)
  cases finished.symm.trans run
  have stored : after.store.analysis? request.key = some ended := key ▸ saved.stored
  have verified (services : Services) : after.store.SameFindings request.key
      ((verifyFailure services request ended build range signals membership).runOn after).2.store :=
    verifyFailure_sameFindings (saved.keyed keyed) key stored ..
  cases ended.hasVerdict with
  | true =>
    simp only [if_true]
    refine Alike.bind (p := tryJob? services request.key) fun _ _ _ => .refl ..
  | false => exact (verified services).symm.trans (verified { services with scheduler })

theorem analyzeRange_alike (keyed : s.store.Keyed) (key : a.key = request.key)
    (present : (s.store.analysis? request.key).isSome) (build : Build) (range : RegressionRange) :
    Alike request.key (analyzeRange services request a build range)
      (analyzeRange { services with scheduler } request a build range) s := by
  unfold analyzeRange
  dsimp only
  have key : ({ a with failedSteps := range.failedSteps }).key = request.key := key
  generalize { a with failedSteps := range.failedSteps } = walked at key ⊢
  refine Alike.bind (p := updateAnalysis services walked) fun _ updated run => ?_
  rw [runOn_updateAnalysis (works _) _ (key ▸ present)] at run
  cases run
  refine Alike.bind (p := orAbort services walked request.finish _) fun scored found run => ?_
  cases orAbort_ok run
  refine Alike.bind fun _ counted run => ?_
  cases run
  refine Alike.bind (p := groupFailure services request build range _)
    fun membership grouped run => ?_
  obtain ⟨_, _, grouping, kept, -⟩ := groupFailure_runOn services request build range
    (.ofLogs request.key.kind request.logs) ((s.withAnalysis walked).counting
      (.suspectsFound request.key.kind.text scored.suspects.length))
  cases grouping.symm.trans run
  have saved := ((s.saves_withAnalysis walked).keep (sameRecords_counting _ _)).keep kept
  refine concludeSteps_alike works scheduler (saved.keyed keyed) ?_ (saved.present key) ..
  exact (Analysis.withGroup_key ..).trans key

theorem analyzeSteps_alike (keyed : s.store.Keyed) (key : a.key = request.key)
    (present : (s.store.analysis? request.key).isSome) (build : Build) (steps : List FailedStep) :
    Alike request.key (analyzeSteps services request a build steps)
      (analyzeSteps { services with scheduler } request a build steps) s := by
  unfold analyzeSteps
  dsimp only
  split
  · exact .refl ..
  · exact analyzeRange_alike works scheduler keyed key present ..

theorem analyzeFailure_alike (keyed : s.store.Keyed) (request : AnalysisRequest) :
    Alike request.key (analyzeFailure services request)
      (analyzeFailure { services with scheduler } request) s := by
  unfold analyzeFailure
  refine Alike.bind (p := beginAnalysis services request) fun a begun run => ?_
  cases (beginAnalysis_runOn works.analyses request s).symm.trans run
  have saved := s.saves_withAnalysis (request.begun s)
  have key := Analysis.begun_key request.key (s.store.analysis? request.key) request.start
  refine Alike.bind (p := orAbort services (request.begun s) request.finish _)
    fun build found run => ?_
  cases orAbort_ok run
  dsimp only
  split
  · exact .refl ..
  · exact analyzeSteps_alike works scheduler (saved.keyed keyed) key (saved.present key) ..

/-- Two analyses of a failure that differ in the scheduler alone find the same where the store
works. They leave the same analysis of the failure but for the phase of its try job, the same groups
and the same analyses and try jobs of all other failures. -/
theorem analyzeFailure_sameFindings (keyed : s.store.Keyed) (request : AnalysisRequest) :
    let after := ((analyzeFailure services request).runOn s).2.store
    let after' := ((analyzeFailure { services with scheduler } request).runOn s).2.store
    after.SameFindings request.key after' ∧
      ∃ a a', after.analysis? request.key = some a ∧ after'.analysis? request.key = some a' ∧
        a' = { a with tryJobPhase := a'.tryJobPhase } := by
  have same : Alike .. := analyzeFailure_alike works scheduler keyed request
  have stored (services : Services) (works : services.StoreWorks) :
      ∃ a, ((analyzeFailure services request).runOn s).2.store.analysis? request.key = some a := by
    obtain ⟨a, -, analyses⟩ := (analyzeFailure_runOn request works fun _ => keyed).analysis?
    exact ⟨a, (analyses _).trans (if_pos rfl)⟩
  obtain ⟨a, found⟩ := stored services works
  obtain ⟨a', found'⟩ := stored { services with scheduler } works
  refine ⟨same, a, a', found, found', ?_⟩
  have findings := same.findings
  rw [found, found'] at findings
  exact congrArg (fun f : Analysis => { f with tryJobPhase := a'.tryJobPhase })
    (Option.some.inj findings)

end

namespace Refusing

def scheduler : Scheduler :=
  ⟨fun _ => .error (.rejected "quota"), fun _ => .error (.rejected "quota")⟩

def refusing : Services := { Services.recalling "8000001" with scheduler }

def analysis? (services : Services) : Option Analysis :=
  ((analyzeFailure services (brokenRequest 0)).runOn .initial).2.store.analysis? brokenCompile

theorem refusal_moves_phase_only :
    ∃ a, analysis? (.recalling "8000001") = some a ∧ a.tryJobPhase = .scheduled ∧
      analysis? refusing = some { a with tryJobPhase := .error } := by
  obtain ⟨-, a, a', found, found', same⟩ :=
    analyzeFailure_sameFindings (s := .initial) (Services.recalling_works "8000001") scheduler
      Store.keyed_empty (brokenRequest 0)
  have found : analysis? (.recalling "8000001") = some a := found
  have found' : analysis? refusing = some a' := found'
  have accepted : (analysis? (.recalling "8000001")).map (·.tryJobPhase) = some .scheduled := by
    decide +kernel
  have refused : (analysis? refusing).map (·.tryJobPhase) = some .error := by decide +kernel
  rw [found] at accepted
  rw [found'] at refused
  have phase : a'.tryJobPhase = .error := Option.some.inj refused
  rw [phase] at same
  exact ⟨a, found, Option.some.inj accepted, found'.trans (congrArg some same)⟩

end Refusing

end CulpritFinding
