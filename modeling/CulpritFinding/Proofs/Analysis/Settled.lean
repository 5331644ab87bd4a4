import CulpritFinding.Proofs.Analysis.BisectionDue
import CulpritFinding.Proofs.Group.Speaking
import CulpritFinding.Proofs.Sound

namespace CulpritFinding

/-- What the analysis of a failure goes by. Commits only bear on its suspects. -/
structure Setting where
  config : Config
  history : BuildHistory
  logs : StepLogs

def AnalysisRequest.setting (request : AnalysisRequest) (services : Services) : Setting :=
  ⟨services.config, services.history, request.logs⟩

namespace Setting

variable (st : Setting) (key : FailureKey) (build : Build)

def steps : List FailedStep :=
  initialFailedSteps st.config build (key.kind.handlesStep st.config)

def range : RegressionRange := findRegressionRange st.history st.config build (st.steps key build)

def signals : FailureSignals := .ofLogs key.kind st.logs

def traits? : Option FailureTraits :=
  (st.range key build).window?.map fun window =>
    ⟨build, key.kind, key.kind.signature (st.range key build).failedSteps (st.signals key), window⟩

def bisection? : Except AnalysisError TryJobRange :=
  tryJobRange st.config key.kind build
    (key.kind.tryJobSteps build (st.range key build).failedSteps) (st.range key build).builds
    (st.signals key)

/-- When an analysis comes to schedule a try job, if no verdict is known. -/
structure Bisectable (st : Setting) (key : FailureKey) (build : Build) (s : Store) : Prop where
  onRecord : buildOnRecord st.history key.build = .ok build
  range : (st.bisection? key build).isOk = true
  timeout : st.config.claimTimeout?.isSome
  speaks : ∀ r ∈ st.traits? key build, r.Speaks s.foundings

theorem Bisectable.of_sameGroups {st : Setting} {key : FailureKey} {build : Build} {s s' : Store}
    (bisectable : st.Bisectable key build s) (same : s'.groups = s.groups) :
    st.Bisectable key build s' := by
  refine ⟨bisectable.onRecord, bisectable.range, bisectable.timeout, ?_⟩
  unfold Store.foundings
  rw [same]
  exact bisectable.speaks

theorem bisection?_of_nothing {st : Setting} {key : FailureKey} {build : Build}
    (nothing : st.steps key build = []) : (st.bisection? key build).isOk = false := by
  unfold bisection? range
  rw [nothing, findRegressionRange_nil]
  cases key.kind <;> rfl

end Setting

variable {services : Services} {request : AnalysisRequest} {s : EngineState} {a : Analysis}

theorem tryJobRange_isOk {config : Config} {kind : FailureKind} {build : Build}
    {steps : List FailedStep} {builds : SortedMap Int Build} {signals : FailureSignals}
    {range : TryJobRange}
    (found : tryJobRange config kind build steps builds signals = .ok range) :
    steps.isEmpty = false := by
  cases steps with
  | nil => cases found
  | cons => rfl

theorem stepsToBisect_of_alone {membership : Option GroupMembership}
    (alone : joinedOthers membership = false) (kind : FailureKind) (build : Build)
    (range : RegressionRange) :
    stepsToBisect kind build range membership = kind.tryJobSteps build range.failedSteps :=
  if_neg (Bool.eq_false_iff.mp alone)

theorem verifyFailure_of_range {build : Build} {range : RegressionRange} {signals : FailureSignals}
    {membership : Option GroupMembership} {bisected : TryJobRange}
    (alone : joinedOthers membership = false)
    (found : tryJobRange services.config request.key.kind build
      (request.key.kind.tryJobSteps build range.failedSteps) range.builds signals = .ok bisected) :
    verifyFailure services request a build range signals membership =
      startTryJob services request (a.after (.evaluated true)) bisected := by
  unfold verifyFailure
  dsimp only
  rw [stepsToBisect_of_alone alone, tryJobRange_isOk found, found]
  rfl

theorem verifyFailure_of_idle (works : services.storeFault .updateAnalysis = none)
    (present : (s.store.analysis? a.key).isSome) {build : Build} {range : RegressionRange}
    {signals : FailureSignals} {membership : Option GroupMembership}
    (idle : joinedOthers membership = true ∨ ∃ e, tryJobRange services.config request.key.kind build
      (request.key.kind.tryJobSteps build range.failedSteps) range.builds signals = .error e) :
    s.SameTryJobs
      ((verifyFailure services request a build range signals membership).runOn s).2 := by
  have saved (a' : Analysis) (key : a'.key = a.key) (outcome : AnalysisOutcome) :
      s.SameTryJobs ((do
        Engine.updateAnalysis services a'
        return outcome : Engine AnalysisOutcome).runOn s).2 := by
    rw [Engine.runOn_bind_ok _ (Engine.runOn_updateAnalysis works a' (key ▸ present))]
    exact (s.saves_withAnalysis a').toSameTryJobs
  unfold verifyFailure
  dsimp only
  cases joined : joinedOthers membership with
  | true =>
    have nothing : stepsToBisect request.key.kind build range membership = [] := if_pos joined
    rw [nothing]
    apply saved
    rfl
  | false =>
    obtain ⟨e, failed⟩ := idle.resolve_left (by rw [joined]; exact Bool.false_ne_true)
    rw [stepsToBisect_of_alone joined, failed]
    split <;> apply saved <;> rfl

/-- How the analysis of a failure without a verdict goes on: no try job is touched, the analysis
stops, or a try job is started and the failure is one that analyses of this setting bisect. -/
inductive Undecided (services : Services) (request : AnalysisRequest) (s : EngineState)
    (r : Except AnalysisError AnalysisOutcome) (s' : EngineState) : Prop
  | idle (same : s.SameTryJobs s')
      (idle : ∀ build, ¬ (request.setting services).Bisectable request.key build s.store)
  | stopped {a : Analysis} (saved : s.Saves a s') (key : a.key = request.key)
      (phase : a.tryJobPhase = .notNeeded) (answer : r = .error .outOfRange)
  | started {a : Analysis} {build : Build} {range : TryJobRange} {middle : EngineState}
      (saved : s.Saves a middle) (key : a.key = request.key) (phase : a.tryJobPhase = .notNeeded)
      (starting : Starting services request (a.after (.evaluated true)) range middle r s')
      (goesOn : r ≠ .error .outOfRange)
      (bisectable : (request.setting services).Bisectable request.key build s'.store)

structure Store.Speaking (spoken : FailureTraits → Prop) (s : Store) : Prop extends s.Sound where
  unique : (s.groups.map (·.id)).Nodup
  speaks : ∀ r, spoken r → r.Speaks s.foundings

section

variable {spoken : FailureTraits → Prop}

theorem Store.Speaking.of_sameGroups {s s' : Store} (speaking : s.Speaking spoken)
    (sound : s'.Sound) (same : s'.groups = s.groups) : s'.Speaking spoken := by
  refine ⟨sound, same ▸ speaking.unique, ?_⟩
  unfold foundings
  rw [same]
  exact speaking.speaks

theorem speaking_lasts (services : Services) :
    Engine.Lasts services (Store.Speaking spoken) fun _ _ => True where
  fresh := trivial
  resolved _ _ := trivial
  stored _ _ := trivial
  save _ s ok := ok.of_sameGroups ((sound_lasts services).save trivial s ok.toSound) rfl
  group other := by
    refine ⟨fun s ok => ?_⟩
    have grouping := other.run_runOn services s
    exact ⟨((sound_lasts services).group other).runOn s ok.toSound, grouping.unique ok.unique,
      fun r spoken => (ok.speaks r spoken).grouping grouping ok.unique⟩
  schedule key range suspects now := by
    refine ⟨fun s ok => ?_⟩
    have scheduling := scheduleTryJob_runOn services ok.toKeyed key range suspects now
    exact ok.of_sameGroups (scheduling.sound ok.toSound) scheduling.sameGroups

theorem updateTryJob_keepsSpeaking (services : Services) (tryJobId : String)
    (status : ExternalStatus) (now : Instant) :
    (CulpritFinding.updateTryJob services tryJobId status now).Keeps (Store.Speaking spoken) := by
  refine ⟨fun s ok => ?_⟩
  have following := updateTryJob_runOn services ok.toKeyed tryJobId status now
  exact ok.of_sameGroups (following.sound ok.toSound) following.sameGroups

theorem speaking_kept : Call.Kept (Store.Speaking spoken) where
  schedule services := (speaking_lasts services).schedule
  update := updateTryJob_keepsSpeaking
  claim services key now staleAfter := by
    refine ⟨fun s ok => ok.of_sameGroups
      ((Engine.keepsSound_claimTryJob key now staleAfter).runOn s ok.toSound) ?_⟩
    obtain ⟨tryJobs, written⟩ := Engine.claimTryJob_writes services key now staleAfter s
    rw [written]
  analyze services := analyzeFailure_keeps (speaking_lasts services)
  follow services _ _ _ := followTryJob_keeps (updateTryJob_keepsSpeaking ..) fun _ _ _ =>
    (speaking_lasts services).update trivial

end

theorem Run.groups_unique {admits : Episode → Prop} {past : List Episode}
    (run : Run admits past s) : (s.store.groups.map (·.id)).Nodup := by
  have kept : Call.Kept (Store.Speaking fun _ => False) := speaking_kept
  have speaking := run.keeps kept ⟨⟨Store.keyed_empty, nofun⟩, List.nodup_nil, fun _ => False.elim⟩
  exact speaking.unique

theorem Setting.Bisectable.lasts {st : Setting} {key : FailureKey} {build : Build}
    (bisectable : st.Bisectable key build s.store) (sound : s.store.Sound)
    (unique : (s.store.groups.map (·.id)).Nodup) (services : Services) (call : Call) :
    st.Bisectable key build ((call.run services).runOn s).2.store := by
  have speaking := (speaking_kept.run services call).runOn s ⟨sound, unique, bisectable.speaks⟩
  exact ⟨bisectable.onRecord, bisectable.range, bisectable.timeout, speaking.speaks⟩

theorem Setting.Bisectable.alone (works : services.StoreWorks) {build : Build}
    {membership : Option GroupMembership} {after : EngineState}
    (bisectable : (request.setting services).Bisectable request.key build s.store)
    (grouped : (groupFailure services request build
      ((request.setting services).range request.key build)
      ((request.setting services).signals request.key)).runOn s = (.ok membership, after)) :
    joinedOthers membership = false := by
  rw [groupFailure_joinedOthers works grouped]
  unfold RegressionRange.groupToJoin?
  cases located : ((request.setting services).range request.key build).window? with
  | none => rfl
  | some window =>
    have speaks := bisectable.speaks _ (by
      unfold Setting.traits?
      rw [located]
      rfl)
    have own := speaks.groupToJoin?
    dsimp only [Option.bind_some] at own ⊢
    cases joined : s.store.groupToJoin? build request.key.kind _ window with
    | none => rfl
    | some g => simpa using own g joined

theorem speaks_of_alone (works : services.StoreWorks)
    (fresh : ∀ g ∈ s.store.groups, g.id ≠ request.freshGroupId) {build : Build}
    {membership : Option GroupMembership} {after : EngineState}
    (grouped : (groupFailure services request build
      ((request.setting services).range request.key build)
      ((request.setting services).signals request.key)).runOn s = (.ok membership, after))
    (alone : joinedOthers membership = false) :
    ∀ r ∈ (request.setting services).traits? request.key build,
      r.Speaks after.store.foundings := by
  intro r traits
  obtain ⟨window, located, rfl⟩ := Option.map_eq_some_iff.mp traits
  obtain ⟨answer, middle, grouping, run⟩ := groupFailure_grouping located services request build
    ((request.setting services).signals request.key) s
  obtain ⟨answered, rfl⟩ := Prod.ext_iff.mp (run.symm.trans grouped)
  obtain ⟨compared, rfl⟩ := groupingAnswer_eq_ok answered
  exact grouping.speaks works fresh compared alone

theorem Starting.sameGroups {range : TryJobRange} {r : Except AnalysisError AnalysisOutcome}
    {after : EngineState} (starting : Starting services request a range s r after) :
    after.store.groups = s.store.groups := by
  cases starting with
  | scheduled scheduling => exact scheduling.sameGroups
  | outOfRange => rfl
  | refused scheduling => exact scheduling.sameGroups

theorem Starting.timed (works : services.StoreWorks) {range : TryJobRange}
    {r : Except AnalysisError AnalysisOutcome} {after : EngineState}
    (starting : Starting services request a range s r after) (goesOn : r ≠ .error .outOfRange) :
    services.config.claimTimeout?.isSome := by
  cases starting with
  | scheduled scheduling => exact scheduling.timed works nofun
  | outOfRange => exact absurd rfl goesOn
  | refused scheduling => exact scheduling.timed works nofun

theorem verifyFailure_undecided (works : services.StoreWorks) (keyed : s.store.Keyed)
    (fresh : ∀ g ∈ s.store.groups, g.id ≠ request.freshGroupId) {build : Build}
    (onRecord : buildOnRecord services.history request.key.build = .ok build)
    {ungrouped grouped middle : EngineState} {membership : Option GroupMembership}
    (sameGroups : ungrouped.store.groups = s.store.groups)
    (grouping : (groupFailure services request build
      ((request.setting services).range request.key build)
      ((request.setting services).signals request.key)).runOn ungrouped = (.ok membership, grouped))
    (saved : s.Saves a middle) (key : a.key = request.key) (phase : a.tryJobPhase = .notNeeded)
    (lastGroups : middle.store.groups = grouped.store.groups) :
    let run := (verifyFailure services request a build
      ((request.setting services).range request.key build)
      ((request.setting services).signals request.key) membership).runOn middle
    Undecided services request s run.1 run.2 := by
  have sameBuild {build' : Build}
      (bisectable : (request.setting services).Bisectable request.key build' s.store) :
      build' = build := Except.ok.inj (bisectable.onRecord.symm.trans onRecord)
  dsimp only
  cases joined : joinedOthers membership with
  | true =>
    refine .idle (saved.toSameTryJobs.trans (verifyFailure_of_idle (works _) (saved.present rfl)
      (.inl joined))) fun build' bisectable => ?_
    obtain rfl := sameBuild bisectable
    cases joined.symm.trans ((bisectable.of_sameGroups sameGroups).alone works grouping)
  | false =>
    cases bisected : (request.setting services).bisection? request.key build with
    | error e =>
      refine .idle (saved.toSameTryJobs.trans (verifyFailure_of_idle (works _) (saved.present rfl)
        (.inr ⟨e, bisected⟩))) fun build' bisectable => ?_
      obtain rfl := sameBuild bisectable
      have range := bisectable.range
      rw [bisected] at range
      cases range
    | ok range =>
      have starting := startTryJob_runOn (a := a.after (.evaluated true)) works
        (saved.keyed keyed) key (saved.present key) range
      rw [verifyFailure_of_range joined bisected]
      dsimp only at starting
      generalize (startTryJob services request (a.after (.evaluated true)) range).runOn middle = run
        at starting ⊢
      obtain ⟨r, after⟩ := run
      by_cases stopped : r = .error .outOfRange
      · subst stopped
        cases starting with
        | outOfRange => exact .stopped saved key phase rfl
      · have ranged : ((request.setting services).bisection? request.key build).isOk = true := by
          rw [bisected]
          rfl
        refine .started saved key phase starting stopped
          ⟨onRecord, ranged, starting.timed works stopped, fun r traits => ?_⟩
        have speaks := speaks_of_alone works (sameGroups ▸ fresh) grouping joined r traits
        unfold Store.foundings at speaks ⊢
        rwa [starting.sameGroups, lastGroups]

theorem analyzeSteps_undecided (works : services.StoreWorks) (sources : services.SourcesWork)
    (keyed : s.store.Keyed)
    (fresh : ∀ g ∈ s.store.groups, g.id ≠ request.freshGroupId) {build : Build}
    (onRecord : buildOnRecord services.history request.key.build = .ok build)
    (undecided : (request.begun s).hasVerdict = false) :
    let run := (analyzeSteps services request (request.begun s) build
      (request.steps services build)).runOn (s.withAnalysis (request.begun s))
    Undecided services request s run.1 run.2 := by
  have begun := s.saves_withAnalysis (request.begun s)
  have key : (request.begun s).key = request.key := Analysis.begun_key ..
  have phase : (request.begun s).tryJobPhase = .notNeeded := Analysis.begun_tryJobPhase undecided
  unfold analyzeSteps
  cases walked : findRegressionRange? services.history services.config build
    (request.steps services build) with
  | none => exact .stopped begun key phase rfl
  | some range =>
    obtain rfl : range = (request.setting services).range request.key build :=
      (findRegressionRange?_eq_some.mp walked).2
    dsimp only
    rcases sources.findSuspects_cases build _ ((request.setting services).signals request.key) with
      ⟨scored, found⟩ | failed
    · obtain ⟨ungrouped, answer, grouped, sameGroups, grouping, reached⟩ :=
        analyzeRange_reaches (works _) (begun.present rfl) undecided found
      cases answer with
      | error e =>
        obtain ⟨rfl, run, ranged⟩ := reached
        rw [run]
        exact .stopped (begun.again ranged rfl) key phase rfl
      | ok membership =>
        obtain ⟨ended, middle, sameKey, samePhase, saved, lastGroups, run⟩ := reached
        rw [run]
        exact verifyFailure_undecided works keyed fresh onRecord sameGroups grouping
          (begun.again saved sameKey) (sameKey.trans key) (samePhase.trans phase) lastGroups
    · obtain ⟨b, after, run, ranged, saved⟩ :=
        analyzeRange_of_failed (works _) (begun.present rfl) failed
      rw [if_pos rfl] at ranged
      subst ranged
      rw [run]
      exact .stopped (begun.again saved rfl) key phase rfl

theorem analyzeFailure_undecided (works : services.StoreWorks) (sources : services.SourcesWork)
    (keyed : s.store.Keyed)
    (fresh : ∀ g ∈ s.store.groups, g.id ≠ request.freshGroupId)
    (undecided : (request.begun s).hasVerdict = false) :
    let run := (analyzeFailure services request).runOn s
    Undecided services request s run.1 run.2 := by
  dsimp only
  cases onRecord : buildOnRecord services.history request.key.build with
  | error e =>
    obtain ⟨after, run, saved⟩ := analyzeFailure_of_unrecorded works.analyses onRecord s
    rw [run]
    exact .idle saved.toSameTryJobs fun build bisectable =>
      nomatch onRecord.symm.trans bisectable.onRecord
  | ok build =>
    by_cases nothing : request.steps services build = []
    · obtain ⟨after, run, saved⟩ := analyzeFailure_of_nothing works onRecord nothing s
      rw [run]
      refine .idle saved.toSameTryJobs fun build' bisectable => ?_
      cases onRecord.symm.trans bisectable.onRecord
      have rangeless : ((request.setting services).bisection? request.key build).isOk = false :=
        Setting.bisection?_of_nothing nothing
      cases rangeless.symm.trans bisectable.range
    · rw [analyzeFailure_of_steps works onRecord nothing]
      exact analyzeSteps_undecided works sources keyed fresh onRecord undecided

end CulpritFinding
