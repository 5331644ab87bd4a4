import CulpritFinding.Proofs.Supported.Analysis

namespace CulpritFinding

def BuildHistory.recording (history : BuildHistory) (key : BuildKey) (build : Build) :
    BuildHistory := fun project builder number =>
  if (⟨project, builder, number⟩ : BuildKey) = key then .ok (some build)
  else history project builder number

/-- Services that know a build without its unsupported steps. -/
def Services.supportedOnly (services : Services) (key : BuildKey) (build : Build) : Services :=
  { services with history := services.history.recording key (build.supportedOnly services.config) }

theorem buildOnRecord_recording (history : BuildHistory) (key : BuildKey) (build : Build) :
    buildOnRecord (history.recording key build) key = .ok build := by
  unfold buildOnRecord BuildHistory.recording
  rw [if_pos rfl]

theorem buildOnRecord_ok {history : BuildHistory} {key : BuildKey} {build : Build}
    (onRecord : buildOnRecord history key = .ok build) :
    history key.project key.builder key.buildNumber = .ok (some build) := by
  unfold buildOnRecord at onRecord
  split at onRecord <;> cases onRecord
  assumption

namespace AnalysisRequest

variable (request : AnalysisRequest) (services : Services) (build : Build)

/-- An output node of a compile failure identifies it although no supported step names it. -/
structure Leaks : Prop where
  compile : request.key.kind = .compile
  supported : ∃ step ∈ request.steps services build, step.supported = true
  node : ∃ node, request.signals.Unsupported (request.steps services build) node

/-- A try job had come to a result other than that nothing was found, and all failed steps are
unsupported. -/
structure LosesResult (s : EngineState) : Prop where
  decided : ∃ previous ∈ s.store.analysis? request.key,
    previous.hasVerdict = true ∧ previous.result ≠ some .notFound
  something : request.steps services build ≠ []
  unsupported : ∀ step ∈ request.steps services build, step.supported = false

end AnalysisRequest

/-- Two analyses that put a failure into the same group, and leave the same groups. -/
structure SameMembership (s s' : EngineState) (a a' : Analysis) : Prop where
  group : a'.failureGroupId = a.failureGroupId
  build : a'.failureGroupBuildId = a.failureGroupBuildId
  groups : s'.store.groups = s.store.groups

namespace RegressionRange

variable {lookUp : Int → Id (Except ProviderError (Option Build))}

theorem extend_firstFailure {r : RegressionRange} (walk : PreviousBuilds)
    (known : ∀ step ∈ r.failedSteps, (r.builds.get? step.firstFailure).isSome) :
    ∀ step ∈ (r.extend lookUp walk).failedSteps,
      ((r.extend lookUp walk).builds.get? step.firstFailure).isSome := by
  fun_induction RegressionRange.extend lookUp r walk with
  | case1 r walk isOpen build rest step ih =>
    apply ih
    intro _ observed
    obtain ⟨step, member, rfl⟩ := List.mem_map.mp observed
    unfold observe
    rw [SortedMap.get?_insert]
    split
    · rfl
    · rename_i other
      rcases step.observe_firstFailure build with same | ⟨new, -⟩
      · rw [same]
        exact known step member
      · exact absurd new.symm other
  | case2 => exact known
  | case3 => exact known
  | case4 => exact known

end RegressionRange

section Names

variable {steps steps' : List FailedStep}
  (same : steps'.map (fun step => (step.stepName, step.supported)) =
    steps.map fun step => (step.stepName, step.supported))

include same

theorem exists_sameName {step : FailedStep} (member : step ∈ steps) :
    ∃ step' ∈ steps', step'.stepName = step.stepName ∧ step'.supported = step.supported := by
  have listed := List.mem_map_of_mem (f := fun step : FailedStep => (step.stepName, step.supported))
    member
  rw [← same] at listed
  obtain ⟨step', member', named⟩ := List.mem_map.mp listed
  obtain ⟨name, supported⟩ := Prod.mk.inj named
  exact ⟨step', member', name, supported⟩

theorem FailureSignals.Unsupported.of_sameNames {signals : FailureSignals} {node : String}
    (lone : signals.Unsupported steps node) : signals.Unsupported steps' node := by
  have names {step step' : FailedStep} (name : step'.stepName = step.stepName) :
      signals.Names step' node ↔ signals.Names step node := by
    unfold Names
    rw [name]
  obtain ⟨step, member, unsupported, named⟩ := lone.unsupported
  obtain ⟨step', member', name, supported⟩ := exists_sameName same member
  refine ⟨lone.named, ⟨step', member', supported.trans unsupported, (names name).mpr named⟩, ?_⟩
  intro other known supported' named'
  obtain ⟨other', known', name', kept⟩ := exists_sameName same.symm known
  exact lone.alone other' known' (kept.trans supported') ((names name').mpr named')

end Names

namespace AnalysisRequest

variable {request : AnalysisRequest} {services : Services} {build : Build}

theorem range_names (request : AnalysisRequest) (services : Services) (build : Build) :
    (request.range services build).failedSteps.map (fun step => (step.stepName, step.supported)) =
      (request.steps services build).map fun step => (step.stepName, step.supported) :=
  RegressionRange.extend_names _ _

theorem range_supported_iff :
    (∃ step ∈ (request.range services build).failedSteps, step.supported = true) ↔
      ∃ step ∈ request.steps services build, step.supported = true := by
  constructor
  · rintro ⟨step, member, supported⟩
    obtain ⟨step', member', -, same⟩ :=
      exists_sameName (request.range_names services build).symm member
    exact ⟨step', member', same.trans supported⟩
  · rintro ⟨step, member, supported⟩
    obtain ⟨step', member', -, same⟩ := exists_sameName (request.range_names services build) member
    exact ⟨step', member', same.trans supported⟩

theorem range_unsupported_iff {node : String} :
    request.signals.Unsupported (request.range services build).failedSteps node ↔
      request.signals.Unsupported (request.steps services build) node :=
  ⟨.of_sameNames (request.range_names services build).symm,
    .of_sameNames (request.range_names services build)⟩

theorem window?_isSome_iff :
    (request.range services build).window?.isSome ↔
      ∃ step ∈ request.steps services build, step.supported = true := by
  rw [← range_supported_iff]
  have known : ∀ step ∈ (request.range services build).failedSteps,
      ((request.range services build).builds.get? step.firstFailure).isSome := by
    refine RegressionRange.extend_firstFailure _ fun step member => ?_
    rw [initialFailedSteps_firstFailure member]
    simp [SortedMap.ofList, SortedMap.get?_insert]
  unfold RegressionRange.window?
  cases first : (request.range services build).failedSteps.find? (·.supported) with
  | none =>
    simpa using List.find?_eq_none.mp first
  | some step =>
    have member := List.mem_of_find?_eq_some first
    obtain ⟨b, found⟩ := Option.isSome_iff_exists.mp (known step member)
    have commit : (request.range services build).commitAt? step.firstFailure =
        some ⟨b.revision, b.commitPosition⟩ := congrArg (Option.map _) found
    simp only [Option.bind_eq_bind, Option.bind_some, commit]
    exact ⟨fun _ => ⟨step, member, List.find?_some first⟩, fun _ => rfl⟩

end AnalysisRequest

section Placement

variable {services : Services} {r : GroupingRequest} {s after : EngineState}
  {answer : Except AnalysisError (Option GroupMembership)}

theorem Grouping.placed (grouping : Grouping services r s answer after)
    (unique : (s.store.groups.map (·.id)).Nodup) {m : GroupMembership}
    (found : answer.toOption.join = some m) :
    ∃ g ∈ after.store.groups, g.id = m.group.id ∧ g.signature = r.signature := by
  have grown (g : FailureGroup) : (g.addMember r.build.key).id = g.id ∧
      (g.addMember r.build.key).signature = g.signature :=
    ⟨(congrArg FailureGroup.id (g.founding_addMember r.build.key) :),
      (congrArg FailureGroup.signature (g.founding_addMember r.build.key) :)⟩
  have signed {g : FailureGroup} (fit : r.firstFit? s.store.groups = some (some g)) :
      g.signature = r.signature :=
    (FailureTraits.fits_iff.mp (List.find?_some (FailureTraits.find?_of_firstFit? fit))).2.2.1
  cases grouping with
  | unsigned => cases found
  | failed => cases found
  | stopped => cases found
  | @own g _ fit =>
    cases found
    exact ⟨g, FailureTraits.mem_of_firstFit? fit, rfl, signed fit⟩
  | @known g _ fit =>
    cases found
    exact ⟨g, FailureTraits.mem_of_firstFit? fit, (grown g).1.symm, signed fit⟩
  | @joined g _ fit =>
    cases found
    obtain ⟨before, rest, -, replaced⟩ := Store.replaceGroup_of_mem (g.addMember r.build.key)
      (grown g).1 unique (FailureTraits.mem_of_firstFit? fit)
    refine ⟨g.addMember r.build.key, ?_, rfl, (grown g).2.trans (signed fit)⟩
    show _ ∈ Store.replaceGroup (g.addMember r.build.key) s.store.groups
    rw [replaced]
    exact List.mem_append_right _ List.mem_cons_self
  | started =>
    cases found
    exact ⟨r.founds, List.mem_concat_self, rfl, rfl⟩

theorem Grouping.isSome (grouping : Grouping services r s answer after)
    (works : services.StoreWorks) (fresh : ∀ g ∈ s.store.groups, g.id ≠ r.freshId)
    (compared : answer ≠ .error .outOfRange) (signed : r.signature.isEmpty = false) :
    answer.toOption.join.isSome := by
  cases grouping with
  | unsigned empty => cases signed.symm.trans empty
  | failed cause =>
    obtain ⟨-, g, member, taken⟩ := cause works
    exact absurd taken (fresh g member)
  | stopped => exact absurd rfl compared
  | own | known | joined | started => rfl

theorem Grouping.signature_eq (grouping : Grouping services r s answer after)
    (unique : (s.store.groups.map (·.id)).Nodup) {services' : Services} {r' : GroupingRequest}
    {after' : EngineState} {answer' : Except AnalysisError (Option GroupMembership)}
    (grouping' : Grouping services' r' s answer' after')
    (same : after'.store.groups = after.store.groups) {m m' : GroupMembership}
    (found : answer.toOption.join = some m) (found' : answer'.toOption.join = some m')
    (sameGroup : m'.group.id = m.group.id) : r'.signature = r.signature := by
  obtain ⟨g, member, id, signature⟩ := grouping.placed unique found
  obtain ⟨g', member', id', signature'⟩ := grouping'.placed unique found'
  obtain rfl : g' = g := List.inj_on_of_nodup_map (grouping.unique unique) (same ▸ member') member
    (id'.trans (sameGroup.trans id.symm))
  exact signature'.symm.trans signature

end Placement

namespace AnalysisRequest

variable {request : AnalysisRequest} {s : EngineState} {range : RegressionRange}
  {scored : ScoredSuspects} {membership : Option GroupMembership} {a : Analysis}

def resultOf (request : AnalysisRequest) (s : EngineState) (suspects : List Suspect) :
    Option AnalysisResult :=
  if (request.begun s).hasVerdict then (request.begun s).result
  else some (if suspects.isEmpty then .notFound else .found)

structure Says (request : AnalysisRequest) (s : EngineState) (scored : ScoredSuspects)
    (membership : Option GroupMembership) (a : Analysis) : Prop where
  stepSuspects : a.stepSuspects = scored.steps
  suspects : a.suspects = scored.suspects
  result : a.result = request.resultOf s scored.suspects
  group : a.failureGroupId = membership.map (·.group.id)
  build : a.failureGroupBuildId = membership.bind (·.group.representativeBuildId)

theorem begun_blank (request : AnalysisRequest) (s : EngineState) :
    (request.begun s).stepSuspects = [] ∧ (request.begun s).suspects = [] ∧
      (request.begun s).failureGroupId = none ∧ (request.begun s).failureGroupBuildId = none := by
  unfold begun Analysis.begun
  split
  · split <;> exact ⟨rfl, rfl, rfl, rfl⟩
  · exact ⟨rfl, rfl, rfl, rfl⟩

theorem spoken_of_findings
    (same : a.findings = (request.concluded s range scored membership).findings) :
    request.Says s scored membership a := by
  obtain ⟨-, -, group, build⟩ := request.begun_blank s
  cases membership with
  | none =>
    exact ⟨(congrArg Analysis.stepSuspects same :), (congrArg Analysis.suspects same :),
      (congrArg Analysis.result same :), (congrArg Analysis.failureGroupId same :).trans group,
      (congrArg Analysis.failureGroupBuildId same :).trans build⟩
  | some m =>
    exact ⟨(congrArg Analysis.stepSuspects same :), (congrArg Analysis.suspects same :),
      (congrArg Analysis.result same :), (congrArg Analysis.failureGroupId same :),
      (congrArg Analysis.failureGroupBuildId same :)⟩

theorem resultOf_nil_ne_iff :
    (∃ previous ∈ s.store.analysis? request.key,
      previous.hasVerdict = true ∧ previous.result ≠ some .notFound) ↔
        request.resultOf s [] ≠ some .notFound := by
  unfold resultOf
  cases known : (request.begun s).hasVerdict with
  | false =>
    refine iff_of_false ?_ fun other => other rfl
    rintro ⟨previous, analyzed, verdict, -⟩
    exact Bool.false_ne_true (known.symm.trans
      (begun_hasVerdict_iff.mpr ⟨previous, analyzed, verdict⟩))
  | true =>
    obtain ⟨previous, analyzed, verdict⟩ := begun_hasVerdict_iff.mp known
    have kept : (request.begun s).result = previous.result :=
      congrArg VerdictRecord.result (begun_of_hasVerdict analyzed verdict)
    rw [if_pos rfl, kept]
    refine ⟨?_, fun other => ⟨previous, analyzed, verdict, other⟩⟩
    rintro ⟨_, same, -, other⟩
    cases analyzed.symm.trans same
    exact other

end AnalysisRequest

/-- How the analysis `a` of a build compares with the analysis `a'` of the build without its
unsupported steps, and the states that the two leave. -/
structure ComparedAnalyses (services : Services) (request : AnalysisRequest) (build : Build)
    (s after after' : EngineState) (a a' : Analysis) : Prop where
  stored : after.store.analysis? request.key = some a
  stored' : after'.store.analysis? request.key = some a'
  stepSuspects : a'.stepSuspects = a.stepSuspects
  suspects : a'.suspects = a.suspects
  result : a'.result = a.result ↔ ¬ request.LosesResult services build s
  same : ¬ request.Leaks services build →
    SameMembership after after' a a' ∧ after'.submissions = after.submissions
  apart : request.Leaks services build → (s.store.groups.map (·.id)).Nodup →
    (∀ g ∈ s.store.groups, g.id ≠ request.freshGroupId) → ¬ SameMembership after after' a a'

variable {services : Services} {request : AnalysisRequest} {s : EngineState} {build : Build}

theorem Services.StoreWorks.supportedOnly (works : services.StoreWorks) (key : BuildKey)
    (build : Build) : (services.supportedOnly key build).StoreWorks := works

theorem Services.SourcesWork.supportedOnly (sources : services.SourcesWork) (key : BuildKey)
    (build : Build) : (services.supportedOnly key build).SourcesWork :=
  ⟨sources.commits, sources.rolls⟩

theorem Services.supportedOnly_onRecord (services : Services) (key : BuildKey) (build : Build) :
    buildOnRecord (services.supportedOnly key build).history key =
      .ok (build.supportedOnly services.config) :=
  buildOnRecord_recording ..

theorem AnalysisRequest.steps_supportedOnly (request : AnalysisRequest) (services : Services)
    (build : Build) :
    request.steps (services.supportedOnly request.key.build build)
        (build.supportedOnly services.config) =
      (request.steps services build).filter (·.supported) :=
  initialFailedSteps_supportedOnly ..

theorem AnalysisRequest.range_sameSupported (answers : services.history.AnswersByNumber)
    (onRecord : buildOnRecord services.history request.key.build = .ok build) :
    RegressionRange.SameSupported services.config (request.range services build)
      (request.range (services.supportedOnly request.key.build build)
        (build.supportedOnly services.config)) := by
  refine findRegressionRange_sameSupported answers services.config build (fun n below => ?_) _
  have number := answers _ _ _ _ (buildOnRecord_ok onRecord)
  refine if_neg fun same => ?_
  have := congrArg BuildKey.buildNumber same
  dsimp only at this
  omega

theorem analyzeFailure_nothing (works : services.StoreWorks)
    (onRecord : buildOnRecord services.history request.key.build = .ok build)
    (nothing : request.steps services build = []) (s : EngineState) :
    let after := ((analyzeFailure services request).runOn s).2
    after.store.groups = s.store.groups ∧ after.submissions = s.submissions ∧
      after.store.analysis? request.key =
        some ((request.begun s).complete (some .notFound) request.finish) := by
  let ended := (request.begun s).complete (some .notFound) request.finish
  have begun := s.saves_withAnalysis (request.begun s)
  obtain ⟨after, run, finished, groups⟩ := finishAnalysis_runOn (works _) "not_found"
    (a := ended) (begun.present rfl)
  have saved := begun.again finished rfl
  have key : ended.key = request.key := Analysis.begun_key ..
  rw [analyzeFailure_of_onRecord works.analyses onRecord, if_pos (List.isEmpty_iff.mpr nothing),
    Engine.runOn_bind_ok _ run, Engine.runOn_pure]
  exact ⟨groups, saved.submissions, key ▸ saved.stored⟩

theorem findSuspects_unsupported {range : RegressionRange} {signals : FailureSignals}
    {scored : ScoredSuspects} (unsupported : range.failedSteps.filter (·.supported) = [])
    (found : findSuspects services build range signals = .ok scored) : scored = ⟨[], []⟩ := by
  unfold findSuspects at found
  split at found
  · cases found
  cases commits : services.changeLogs range.baseRevision? build.revision with
  | error e =>
    rw [commits] at found
    cases found
  | ok logs =>
    rw [commits] at found
    dsimp only [Except.mapError, bind, Except.bind] at found
    cases rolls : services.dependencies build logs with
    | error e =>
      rw [rolls] at found
      cases found
    | ok rolled =>
      rw [rolls] at found
      dsimp only at found
      unfold scoreSuspects? at found
      split at found
      case h_2 => cases found
      rename_i scored' answered
      split at answered <;> cases answered
      cases found
      have unscored : scoreSteps services.scorer
          ⟨range.failedSteps, range.builds, logs, rolled, signals⟩ = [] := by
        unfold scoreSteps
        dsimp only
        rw [unsupported, List.filterMap_nil]
      unfold scoreSuspects
      dsimp only
      rw [unscored]
      exact congrArg (ScoredSuspects.mk []) List.mergeSort_nil

namespace AnalysisRequest

variable (works : services.StoreWorks) (sources : services.SourcesWork)
  (answers : services.history.AnswersByNumber)
  (onRecord : buildOnRecord services.history request.key.build = .ok build)

section

include answers onRecord

theorem groupFailure_supportedOnly (sealed : ¬ request.Leaks services build)
    (supported : ∃ step ∈ request.steps services build, step.supported = true) :
    let services' := services.supportedOnly request.key.build build
    let build' := build.supportedOnly services.config
    groupFailure services' request build' (request.range services' build') request.signals =
      groupFailure services request build (request.range services build) request.signals := by
  intro services' build'
  have alike := range_sameSupported answers onRecord
  have signature := (alike.signature_eq_iff request.key.kind request.signals).mpr (by
    rintro ⟨compile, node, lone⟩
    exact sealed ⟨compile, supported, node, range_unsupported_iff.mp lone⟩)
  unfold groupFailure
  rw [alike.window?]
  dsimp only [services', build'] at signature ⊢
  rw [signature]
  rfl

theorem sent_supportedOnly (s : EngineState) (scored : ScoredSuspects)
    (membership : Option GroupMembership) :
    let services' := services.supportedOnly request.key.build build
    let build' := build.supportedOnly services.config
    request.sent services' s build' (request.range services' build') scored membership =
      request.sent services s build (request.range services build) scored membership := by
  intro services' build'
  have alike := range_sameSupported answers onRecord
  have bisected : stepsToBisect request.key.kind build' (request.range services' build')
      membership =
        stepsToBisect request.key.kind build (request.range services build) membership := by
    unfold stepsToBisect
    rw [alike.tryJobSteps]
  have among : ∀ step ∈ stepsToBisect request.key.kind build' (request.range services' build')
      membership, step ∈ (request.range services' build').failedSteps := by
    intro step member
    unfold stepsToBisect at member
    split at member
    · cases member
    · exact FailureKind.tryJobSteps_subset _ _ _ step member
  have range : tryJobRange services'.config request.key.kind build' _ _ request.signals =
      tryJobRange services.config request.key.kind build _ _ request.signals :=
    alike.tryJobRange among ..
  unfold sent
  rw [range, bisected]
  rfl

include works

theorem grouped_apart {before grouped grouped' : EngineState}
    {membership membership' : Option GroupMembership} (leaks : request.Leaks services build)
    (run : (groupFailure services request build (request.range services build)
      request.signals).runOn before = (.ok membership, grouped))
    (run' : (groupFailure (services.supportedOnly request.key.build build) request
      (build.supportedOnly services.config)
      (request.range (services.supportedOnly request.key.build build)
        (build.supportedOnly services.config)) request.signals).runOn before =
      (.ok membership', grouped'))
    (unique : (before.store.groups.map (·.id)).Nodup)
    (fresh : ∀ g ∈ before.store.groups, g.id ≠ request.freshGroupId)
    (sameGroups : grouped'.store.groups = grouped.store.groups)
    (sameGroup : membership'.map (·.group.id) = membership.map (·.group.id)) : False := by
  have alike := range_sameSupported answers onRecord
  obtain ⟨window, located⟩ := Option.isSome_iff_exists.mp (window?_isSome_iff.mpr leaks.supported)
  obtain ⟨node, lone⟩ := leaks.node
  obtain ⟨answer, left, grouping, ran⟩ :=
    groupFailure_grouping located services request build request.signals before
  obtain ⟨answer', left', grouping', ran'⟩ := groupFailure_grouping (alike.window?.trans located)
    (services.supportedOnly request.key.build build) request (build.supportedOnly services.config)
    request.signals before
  obtain ⟨answered, rfl⟩ := Prod.ext_iff.mp (ran.symm.trans run)
  obtain ⟨answered', rfl⟩ := Prod.ext_iff.mp (ran'.symm.trans run')
  obtain ⟨compared, rfl⟩ := groupingAnswer_eq_ok answered
  obtain ⟨-, rfl⟩ := groupingAnswer_eq_ok answered'
  have leaked := range_unsupported_iff.mpr lone
  have signed : (request.key.kind.signature (request.range services build).failedSteps
      request.signals).isEmpty = false := by
    rw [leaks.compile]
    exact leaked.signature_isEmpty
  obtain ⟨m, joined⟩ := Option.isSome_iff_exists.mp (grouping.isSome works fresh compared signed)
  rw [joined, Option.map_some, Option.map_eq_some_iff] at sameGroup
  obtain ⟨m', joined', sameId⟩ := sameGroup
  have signature := grouping.signature_eq unique grouping' sameGroups joined joined' sameId
  exact (alike.signature_eq_iff _ _).mp signature ⟨leaks.compile, node, leaked⟩

end

include works onRecord

theorem compare_nothing (nothing : request.steps services build = []) (s : EngineState) :
    ∃ a a', ComparedAnalyses services request build s
      ((analyzeFailure services request).runOn s).2
      ((analyzeFailure (services.supportedOnly request.key.build build) request).runOn s).2
      a a' := by
  have nothing' : request.steps (services.supportedOnly request.key.build build)
      (build.supportedOnly services.config) = [] := by
    rw [steps_supportedOnly, nothing, List.filter_nil]
  obtain ⟨groups, submissions, stored⟩ := analyzeFailure_nothing works onRecord nothing s
  obtain ⟨groups', submissions', stored'⟩ := analyzeFailure_nothing
    (works.supportedOnly request.key.build build)
    (services.supportedOnly_onRecord request.key.build build) nothing' s
  refine ⟨_, _, stored, stored', rfl, rfl, ?_, ?_, ?_⟩
  · exact iff_of_true rfl fun loses => loses.something nothing
  · exact fun _ => ⟨⟨rfl, rfl, groups'.trans groups.symm⟩, submissions'.trans submissions.symm⟩
  · intro leaks
    obtain ⟨step, member, -⟩ := leaks.supported
    cases nothing ▸ member

include sources answers

theorem leaves_of_unsupported (something : request.steps services build ≠ [])
    (unsupported : ∀ step ∈ request.steps services build, step.supported = false)
    (ended : request.EndedIn ((analyzeFailure services request).runOn s).2) :
    let after := ((analyzeFailure services request).runOn s).2
    after.store.groups = s.store.groups ∧ after.submissions = s.submissions ∧
      ∃ a, after.store.analysis? request.key = some a ∧ request.Says s ⟨[], []⟩ none a := by
  intro after
  have none_supported : ¬ ∃ step ∈ request.steps services build, step.supported = true := by
    rintro ⟨step, member, supported⟩
    cases supported.symm.trans (unsupported step member)
  have filtered : (request.range services build).failedSteps.filter (·.supported) = [] := by
    refine List.filter_eq_nil_iff.mpr fun step member supported => none_supported ?_
    exact range_supported_iff.mp ⟨step, member, supported⟩
  have alike := range_sameSupported answers onRecord
  have windowless : (request.range services build).window? = none :=
    Option.not_isSome_iff_eq_none.mp fun located =>
      none_supported (window?_isSome_iff.mp located)
  obtain ⟨scored, membership, grouped, found, grouping, groups, submissions, a, stored, findings⟩ :=
    analyzeFailure_leaves works sources onRecord something ended
  cases findSuspects_unsupported filtered found
  unfold groupFailure at grouping
  rw [windowless] at grouping
  cases grouping
  have bisected :
      stepsToBisect request.key.kind build (request.range services build) none = [] := by
    have steps : request.key.kind.tryJobSteps (build.supportedOnly services.config) _ =
        request.key.kind.tryJobSteps build _ := alike.tryJobSteps ..
    rw [alike.steps, filtered] at steps
    refine Eq.trans ?_ (steps.symm.trans ?_)
    · rfl
    · cases request.key.kind <;> rfl
  refine ⟨groups, submissions.trans ?_, a, stored, spoken_of_findings findings⟩
  unfold sent
  rw [bisected]
  split
  · rfl
  · rfl

theorem compare_unsupported (something : request.steps services build ≠ [])
    (unsupported : ∀ step ∈ request.steps services build, step.supported = false)
    (ended : request.EndedIn ((analyzeFailure services request).runOn s).2) :
    ∃ a a', ComparedAnalyses services request build s
      ((analyzeFailure services request).runOn s).2
      ((analyzeFailure (services.supportedOnly request.key.build build) request).runOn s).2
      a a' := by
  have nothing : request.steps (services.supportedOnly request.key.build build)
      (build.supportedOnly services.config) = [] := by
    rw [steps_supportedOnly]
    exact List.filter_eq_nil_iff.mpr fun step member => by simp [unsupported step member]
  obtain ⟨groups, submissions, a, stored, said⟩ :=
    leaves_of_unsupported works sources answers onRecord something unsupported ended
  obtain ⟨groups', submissions', stored'⟩ := analyzeFailure_nothing
    (works.supportedOnly request.key.build build)
    (services.supportedOnly_onRecord request.key.build build) nothing s
  obtain ⟨stepSuspects, suspects, group, groupBuild⟩ := request.begun_blank s
  have lost : request.LosesResult services build s ↔ a.result ≠ some .notFound := by
    rw [said.result, ← resultOf_nil_ne_iff]
    exact ⟨fun loses => loses.decided, fun decided => ⟨decided, something, unsupported⟩⟩
  refine ⟨a, _, stored, stored', ?_, ?_, ?_, ?_, ?_⟩
  · exact stepSuspects.trans said.stepSuspects.symm
  · exact suspects.trans said.suspects.symm
  · rw [lost, not_not]
    exact eq_comm
  · refine fun _ => ⟨⟨?_, ?_, groups'.trans groups.symm⟩, submissions'.trans submissions.symm⟩
    · exact group.trans said.group.symm
    · exact groupBuild.trans said.build.symm
  · intro leaks
    obtain ⟨step, member, supported⟩ := leaks.supported
    cases supported.symm.trans (unsupported step member)

theorem compare_supported (blind : ∀ logs, services.dependencies
      (build.supportedOnly services.config) logs = services.dependencies build logs)
    (supported : ∃ step ∈ request.steps services build, step.supported = true)
    (ended : request.EndedIn ((analyzeFailure services request).runOn s).2)
    (ended' : request.EndedIn
      ((analyzeFailure (services.supportedOnly request.key.build build) request).runOn s).2) :
    ∃ a a', ComparedAnalyses services request build s
      ((analyzeFailure services request).runOn s).2
      ((analyzeFailure (services.supportedOnly request.key.build build) request).runOn s).2
      a a' := by
  let services' := services.supportedOnly request.key.build build
  let build' := build.supportedOnly services.config
  have alike := range_sameSupported answers onRecord
  obtain ⟨known, member, supports⟩ := supported
  have something : request.steps services build ≠ [] := List.ne_nil_of_mem member
  have something' : request.steps services' build' ≠ [] := by
    rw [steps_supportedOnly]
    exact List.ne_nil_of_mem (List.mem_filter.mpr ⟨member, supports⟩)
  obtain ⟨scored, membership, grouped, found, run, groups, submissions, a, stored, findings⟩ :=
    analyzeFailure_leaves works sources onRecord something ended
  obtain ⟨scored', membership', grouped', found', run', groups', submissions', a', stored',
    findings'⟩ := analyzeFailure_leaves (works.supportedOnly request.key.build build)
      (sources.supportedOnly request.key.build build)
      (services.supportedOnly_onRecord request.key.build build) something' ended'
  have same := alike.findSuspects blind services'.history request.signals
  obtain rfl : scored = scored' := Except.ok.inj (found.symm.trans (same.symm.trans found'))
  have said := spoken_of_findings findings
  have said' := spoken_of_findings findings'
  refine ⟨a, a', stored, stored', ?_, ?_, ?_, fun sealed => ?_, fun leaks unique fresh same => ?_⟩
  · exact said'.stepSuspects.trans said.stepSuspects.symm
  · exact said'.suspects.trans said.suspects.symm
  · refine iff_of_true (said'.result.trans said.result.symm) fun loses => ?_
    cases supports.symm.trans (loses.unsupported known member)
  · rw [groupFailure_supportedOnly answers onRecord sealed ⟨known, member, supports⟩] at run'
    cases run.symm.trans run'
    refine ⟨⟨?_, ?_, groups'.trans groups.symm⟩, ?_⟩
    · exact said'.group.trans said.group.symm
    · exact said'.build.trans said.build.symm
    · exact submissions'.trans
        ((sent_supportedOnly answers onRecord s scored membership).trans submissions.symm)
  · exact grouped_apart works answers onRecord leaks run run' unique fresh
      ((groups'.symm.trans same.groups).trans groups)
      ((said'.group.symm.trans same.group).trans said.group)

end AnalysisRequest

/-- An analysis that comes to its end comes to the same suspects without the unsupported steps of
its build, if it then comes to its end too. It comes to another result exactly where all failed
steps are unsupported and a try job had decided otherwise, since it then gives up the verdict. The
failure is put into the same group, and the same try job is asked for, unless an output node that
only unsupported steps name identifies the failure: the groups then differ. -/
theorem analyzeFailure_supportedOnly (works : services.StoreWorks)
    (sources : services.SourcesWork) (answers : services.history.AnswersByNumber)
    (onRecord : buildOnRecord services.history request.key.build = .ok build)
    (blind : ∀ logs, services.dependencies (build.supportedOnly services.config) logs =
      services.dependencies build logs)
    (ended : request.EndedIn ((analyzeFailure services request).runOn s).2)
    (ended' : request.EndedIn
      ((analyzeFailure (services.supportedOnly request.key.build build) request).runOn s).2) :
    ∃ a a', ComparedAnalyses services request build s
      ((analyzeFailure services request).runOn s).2
      ((analyzeFailure (services.supportedOnly request.key.build build) request).runOn s).2
      a a' := by
  by_cases something : request.steps services build = []
  · exact AnalysisRequest.compare_nothing works onRecord something s
  · by_cases supported : ∃ step ∈ request.steps services build, step.supported = true
    · exact AnalysisRequest.compare_supported works sources answers onRecord blind supported ended
        ended'
    · refine AnalysisRequest.compare_unsupported works sources answers onRecord something ?_ ended
      simpa using supported

namespace Packaging

def broken : Build :=
  ⟨"chromium", "ci", "linux", 1, none, .failure, "bad", none, ["bad"],
    .ofList ["compile", "package"], .empty, .empty, none⟩

def tools : Services :=
  { Services.giving "8000001" with
    config := { Config.standard with
      compileStepNames := ["compile", "package"]
      unsupportedStepNames := .ofList ["package"] }
    history := recordedHistory [broken] }

def twoOutputs : AnalysisRequest :=
  ⟨brokenCompile,
    .ofList [("compile", ⟨"FAILED: a.o", .empty⟩), ("package", ⟨"FAILED: b", .empty⟩)],
    ⟨0, 0⟩, ⟨0, 0⟩, ⟨0⟩⟩

theorem leaks : twoOutputs.Leaks tools broken where
  compile := rfl
  supported := by decide +kernel
  node := ⟨"b", by decide, by decide +kernel, by decide +kernel⟩

theorem grouped_by_package : ∃ a a', ComparedAnalyses tools twoOutputs broken .initial
      ((analyzeFailure tools twoOutputs).runOn .initial).2
      ((analyzeFailure (tools.supportedOnly brokenCompile.build broken) twoOutputs).runOn
        .initial).2 a a' ∧
    ¬ SameMembership ((analyzeFailure tools twoOutputs).runOn .initial).2
      ((analyzeFailure (tools.supportedOnly brokenCompile.build broken) twoOutputs).runOn
        .initial).2 a a' := by
  have works : tools.StoreWorks := fun _ => rfl
  have sources : tools.SourcesWork := ⟨fun _ _ => ⟨_, rfl⟩, fun _ _ => ⟨_, rfl⟩⟩
  have onRecord : buildOnRecord tools.history twoOutputs.key.build = .ok broken := rfl
  have ended : twoOutputs.EndedIn ((analyzeFailure tools twoOutputs).runOn .initial).2 := by
    decide +kernel
  have ended' : twoOutputs.EndedIn
      ((analyzeFailure (tools.supportedOnly brokenCompile.build broken) twoOutputs).runOn
        .initial).2 := by
    decide +kernel
  obtain ⟨a, a', compared⟩ := analyzeFailure_supportedOnly works sources
    (recordedHistory_answersByNumber [broken]) onRecord (fun _ => rfl) ended ended'
  exact ⟨a, a', compared, compared.apart leaks List.nodup_nil (List.forall_mem_nil _)⟩

end Packaging

end CulpritFinding
