import CulpritFinding.Proofs.Analysis.BisectionDue
import CulpritFinding.Proofs.Analysis.Findings
import CulpritFinding.Proofs.Group.Invariant
import CulpritFinding.Proofs.Supported.Findings

namespace CulpritFinding

namespace Engine

variable {α β : Type} {services : Services}

structure Frames (x : Engine α) : Prop where
  runOn : ∀ (s : EngineState) (a : Analysis),
    x.runOn (s.withAnalysis a) = ((x.runOn s).1, (x.runOn s).2.withAnalysis a)

theorem frames_pure (v : α) : (pure v : Engine α).Frames := ⟨fun _ _ => rfl⟩

theorem frames_throw (e : AnalysisError) : (throw e : Engine α).Frames := ⟨fun _ _ => rfl⟩

theorem frames_record (event : Metric) : (record event).Frames := ⟨fun _ _ => rfl⟩

theorem Frames.bind {x : Engine α} {f : α → Engine β} (first : x.Frames)
    (next : ∀ v, (f v).Frames) : (x >>= f).Frames := by
  refine ⟨fun s a => ?_⟩
  rw [runOn_bind, runOn_bind, first.runOn]
  rcases x.runOn s with ⟨_ | v, middle⟩
  · rfl
  · exact (next v).runOn middle a

theorem Frames.tryCatch {x : Engine α} {f : AnalysisError → Engine α} (first : x.Frames)
    (handled : ∀ e, (f e).Frames) : (tryCatch x f).Frames := by
  refine ⟨fun s a => ?_⟩
  rw [runOn_tryCatch, runOn_tryCatch, first.runOn]
  rcases x.runOn s with ⟨e | v, middle⟩
  · exact (handled e).runOn middle a
  · rfl

theorem frames_access (method : StoreMethod) {operation : Store → Except StoreError (α × Store)}
    (blind : ∀ (s : Store) analyses, operation { s with analyses } =
      (operation s).map fun result => (result.1, { result.2 with analyses })) :
    (access services method operation).Frames := by
  refine ⟨fun s a => ?_⟩
  cases fault : services.storeFault method with
  | some reason => rw [runOn_access_fault fault, runOn_access_fault fault]
  | none =>
    have own := blind s.store s.store.analyses
    have same := blind s.store (s.store.analyses.put a.key a)
    rw [runOn_access fault, runOn_access fault]
    unfold EngineState.withAnalysis
    dsimp only
    rw [same]
    cases done : operation s.store with
    | error e => rfl
    | ok result =>
      rw [show operation { s.store with analyses := s.store.analyses } = .ok result from done]
        at own
      have kept : result.2.analyses = s.store.analyses :=
        congrArg (fun r : α × Store => r.2.analyses) (Except.ok.inj own)
      simp only [Except.map, kept]

theorem frames_write (method : StoreMethod) {change : Store → Except StoreError Store}
    (blind : ∀ (s : Store) analyses, change { s with analyses } =
      (change s).map fun result => { result with analyses }) :
    (write services method change).Frames := by
  refine frames_access _ fun s analyses => ?_
  rw [blind]
  cases change s <;> rfl

end Engine

open Engine

variable {services : Services} {request : AnalysisRequest} {s : EngineState} {build : Build}

theorem findOrCreateGroup_frames (services : Services) (freshId : GroupId) (build : Build)
    (kind : FailureKind) (signature : FailureSignature) (window : RegressionWindow)
    (now : Instant) :
    (findOrCreateGroup services freshId build kind signature window now).Frames := by
  have joins (g : FailureGroup) : (joinGroup services g build.key).Frames := by
    have update : (updateGroup services (g.addMember build.key)).Frames := by
      refine frames_write _ fun s analyses => ?_
      unfold Store.updateGroup
      dsimp only
      split <;> rfl
    have counted : (do
        record (.failureGrouped "joined")
        return (⟨g.addMember build.key, false⟩ : GroupMembership) : Engine _).Frames :=
      (frames_record _).bind fun _ => frames_pure _
    unfold joinGroup
    split
    · exact frames_pure _
    · dsimp only
      split
      · exact update.bind fun _ => counted
      · exact counted
  have create (g : FailureGroup) : (createGroup services g).Frames := by
    refine frames_write _ fun s analyses => ?_
    unfold Store.createGroup
    dsimp only
    split <;> rfl
  have find : (findGroups services build.project kind signature).Frames := by
    unfold findGroups Engine.read
    exact frames_access _ fun _ _ => rfl
  unfold findOrCreateGroup
  split
  · exact frames_pure _
  · refine find.bind fun candidates => ?_
    split
    · exact frames_throw _
    · exact (joins _).bind fun _ => frames_pure _
    · exact (create _).bind fun _ => (frames_record _).bind fun _ => frames_pure _

theorem groupFailure_frames (services : Services) (request : AnalysisRequest) (build : Build)
    (range : RegressionRange) (signals : FailureSignals) :
    (groupFailure services request build range signals).Frames := by
  unfold groupFailure
  split
  · exact frames_pure _
  · refine (findOrCreateGroup_frames ..).tryCatch fun e => ?_
    split
    · exact frames_throw _
    · exact frames_pure _

theorem scheduleTryJob_submissions_congr {s s' : EngineState}
    (works : services.storeFault .claimTryJob = none) (same : s.SameTryJobs s') (key : FailureKey)
    (range : TryJobRange) (suspects : List Suspect) (now : Instant) :
    ((scheduleTryJob services key range suspects now).runOn s').2.submissions =
      ((scheduleTryJob services key range suspects now).runOn s).2.submissions := by
  cases timeout : services.config.claimTimeout? with
  | none =>
    unfold scheduleTryJob
    rw [timeout]
    exact same.submissions
  | some staleAfter =>
    rcases s.store.claimable_or_held key now staleAfter with
      ⟨claim, claimed⟩ | ⟨job, stored, held⟩ | spent
    · have claimed' : s'.store.claimable? key now staleAfter = some claim := by
        unfold Store.claimable?
        rw [same.tryJob?]
        exact claimed
      rw [scheduleTryJob_of_claimable works timeout claimed,
        scheduleTryJob_of_claimable works timeout claimed', same.submissions]
    · rw [scheduleTryJob_of_held works timeout stored held,
        scheduleTryJob_of_held works timeout ((same.tryJob? key).trans stored) held]
      exact same.submissions
    · have spent' : s'.store.SpentAt key now staleAfter := by
        unfold Store.SpentAt
        rw [same.tryJob?]
        exact spent
      rw [scheduleTryJob_of_spent works timeout spent,
        scheduleTryJob_of_spent works timeout spent']
      exact same.submissions

theorem scheduleTryJob_keeps {kept : Store → Prop}
    (others : ∀ {s : Store} tryJobs tryJobOwners, kept s → kept { s with tryJobs, tryJobOwners })
    (services : Services) (key : FailureKey) (range : TryJobRange) (suspects : List Suspect)
    (now : Instant) : (scheduleTryJob services key range suspects now).Keeps kept := by
  have claim (staleAfter : Span) : (claimTryJob services key now staleAfter).Keeps kept := by
    have written : (access services .claimTryJob fun s =>
        .ok (s.claimTryJob key now staleAfter)).Keeps kept := by
      refine keeps_access _ fun store answer result ok done => ?_
      obtain ⟨tryJobs, frame⟩ := store.claimTryJob_frame key now staleAfter
      obtain rfl : (store.claimTryJob key now staleAfter).2 = result :=
        congrArg Prod.snd (Except.ok.inj done)
      rw [frame]
      exact others tryJobs store.tryJobOwners ok
    unfold claimTryJob
    refine written.bind fun claimed => ?_
    split
    · exact keeps_pure _
    · exact keeps_throw _
  have update (job : TryJob) : (Engine.updateTryJob services job).Keeps kept := by
    refine keeps_write _ fun store result ok done => ?_
    unfold Store.updateTryJob at done
    split at done <;> cases done
    exact others _ _ ok
  have trigger (job : TryJob) : (triggerTryJob services job range suspects now).Keeps kept := by
    unfold triggerTryJob
    refine Keeps.bind ⟨fun _ ok => ok⟩ fun answer => ?_
    split
    · exact (update _).bind fun _ => (keeps_record _).bind fun _ => keeps_pure _
    · exact (update _).bind fun _ => (keeps_record _).bind fun _ => keeps_throw _
  unfold scheduleTryJob
  split
  · exact keeps_throw _
  · refine (claim _).bind fun claimed => ?_
    split
    · exact keeps_pure _
    · exact trigger _
    · exact trigger _

theorem verifyFailure_leaves (services : Services) {a : Analysis} (key : a.key = request.key)
    (stored : s.store.analysis? request.key = some a) (build : Build) (range : RegressionRange)
    (signals : FailureSignals) (membership : Option GroupMembership) :
    let after := ((verifyFailure services request a build range signals membership).runOn s).2
    after.store.groups = s.store.groups ∧
      ∃ b, after.store.analysis? request.key = some b ∧ b.findings = a.findings := by
  let kept (store : Store) : Prop := store.groups = s.store.groups ∧
    ∃ b, store.analysis? request.key = some b ∧ b.findings = a.findings
  have saves : Engine.Saves services kept fun b =>
      b.key = request.key ∧ b.findings = a.findings := by
    refine ⟨fun {b} fits => ?_, fun fits _ => fits⟩
    apply keeps_updateAnalysis
    rintro middle ⟨sameGroups, -⟩
    refine ⟨sameGroups, b, ?_, fits.2⟩
    rw [EngineState.analysis?_withAnalysis, if_pos fits.1]
  have schedule range suspects now :
      (scheduleTryJob services request.key range suspects now).Keeps kept :=
    scheduleTryJob_keeps (fun _ _ ok => ok) ..
  exact (verifyFailure_keeps saves schedule ⟨key, rfl⟩ build range signals membership).runOn s
    ⟨rfl, a, stored, rfl⟩

namespace AnalysisRequest

variable (request : AnalysisRequest) (services : Services) (s : EngineState) (build : Build)
  (range : RegressionRange) (scored : ScoredSuspects) (membership : Option GroupMembership)

def signals : FailureSignals := .ofLogs request.key.kind request.logs

def concluded : Analysis :=
  let a := ({ request.begun s with failedSteps := range.failedSteps }.withSuspects scored).withGroup
    membership
  a.complete a.heuristicResult request.finish

def sent : List Submission :=
  if (request.begun s).hasVerdict then s.submissions
  else
    match tryJobRange services.config request.key.kind build
      (stepsToBisect request.key.kind build range membership) range.builds request.signals with
    | .ok bisected => ((scheduleTryJob services request.key bisected scored.suspects
        request.start).runOn s).2.submissions
    | .error _ => s.submissions

end AnalysisRequest

theorem Analysis.withGroup_suspects (a : Analysis) (membership : Option GroupMembership) :
    (a.withGroup membership).suspects = a.suspects := by
  cases membership <;> rfl

theorem concludeSteps_leaves (works : services.StoreWorks) {a : Analysis}
    (key : a.key = request.key) (present : (s.store.analysis? request.key).isSome) (build : Build)
    (range : RegressionRange) (signals : FailureSignals) (membership : Option GroupMembership) :
    let after := ((concludeSteps services request a build range signals membership).runOn s).2
    after.store.groups = s.store.groups ∧
      (after.submissions =
        if a.hasVerdict then s.submissions
        else
          match tryJobRange services.config request.key.kind build
            (stepsToBisect request.key.kind build range membership) range.builds signals with
          | .ok bisected => ((scheduleTryJob services request.key bisected a.suspects
              request.start).runOn s).2.submissions
          | .error _ => s.submissions) ∧
      ∃ b, after.store.analysis? request.key = some b ∧
        b.findings = (a.complete a.heuristicResult request.finish).findings := by
  intro after
  let ended := a.complete a.heuristicResult request.finish
  have endedKey : ended.key = request.key := key
  obtain ⟨middle, run, saved, sameGroups⟩ := finishAnalysis_runOn (works _)
    AnalysisStatus.completed.text (a := ended) (endedKey ▸ present)
  have stored : middle.store.analysis? request.key = some ended := endedKey ▸ saved.stored
  have decided : ended.hasVerdict = a.hasVerdict := rfl
  have rest : (concludeSteps services request a build range signals membership).runOn s =
      (if ended.hasVerdict then do return ⟨ended, ← Engine.tryJob? services request.key⟩
        else verifyFailure services request ended build range signals membership).runOn middle :=
    Engine.runOn_bind_ok _ run
  have left : after = _ := congrArg Prod.snd rest
  rw [left, decided]
  cases a.hasVerdict with
  | true =>
    simp only [if_true]
    unfold Engine.tryJob?
    rw [Engine.runOn_bind_ok _ (Engine.runOn_read (works _) ..), Engine.runOn_pure]
    exact ⟨sameGroups, saved.submissions, ended, stored, rfl⟩
  | false =>
    simp only [Bool.false_eq_true, if_false]
    obtain ⟨groups, findings⟩ := verifyFailure_leaves services endedKey stored build range signals
      membership
    refine ⟨groups.trans sameGroups, ?_, findings⟩
    rw [verifyFailure_submissions]
    cases tryJobRange services.config request.key.kind build
      (stepsToBisect request.key.kind build range membership) range.builds signals with
    | ok bisected =>
      exact scheduleTryJob_submissions_congr (works _) saved.toSameTryJobs ..
    | error e => exact saved.submissions

/-- That the analysis under a key is not left running. -/
def AnalysisRequest.EndedIn (request : AnalysisRequest) (s : EngineState) : Prop :=
  ∀ a ∈ s.store.analysis? request.key, a.status ≠ .running

instance (request : AnalysisRequest) (s : EngineState) : Decidable (request.EndedIn s) :=
  inferInstanceAs (Decidable (∀ a ∈ s.store.analysis? request.key, _))

theorem AnalysisRequest.begun_running (request : AnalysisRequest) (s : EngineState) :
    (request.begun s).status = .running := by
  unfold begun Analysis.begun
  split
  · split <;> rfl
  · rfl

theorem AnalysisRequest.EndedIn.not_running {after : EngineState} {a : Analysis}
    (ended : request.EndedIn after) (key : a.key = request.key) (saved : s.Saves a after) :
    a.status ≠ .running := ended a (key ▸ saved.stored)

theorem analyzeFailure_reaches (works : services.StoreWorks) (sources : services.SourcesWork)
    (onRecord : buildOnRecord services.history request.key.build = .ok build)
    (something : request.steps services build ≠ [])
    (ended : request.EndedIn ((analyzeFailure services request).runOn s).2) :
    let range := request.range services build
    let walked := { request.begun s with failedSteps := range.failedSteps }
    let begun := s.withAnalysis (request.begun s)
    ∃ scored membership grouped,
      findSuspects services build range request.signals = .ok scored ∧
      (groupFailure services request build range request.signals).runOn
        ((begun.withAnalysis walked).counting
          (.suspectsFound request.key.kind.text scored.suspects.length)) =
        (.ok membership, grouped) ∧
      begun.Saves walked grouped ∧
      (analyzeFailure services request).runOn s =
        (concludeSteps services request ((walked.withSuspects scored).withGroup membership) build
          range request.signals membership).runOn grouped := by
  intro range walked begun
  have key : (request.begun s).key = request.key := Analysis.begun_key ..
  have running := request.begun_running s
  have saved := s.saves_withAnalysis (request.begun s)
  have walk : findRegressionRange? services.history services.config build
      (request.steps services build) =
        if fitsInt64 (build.buildNumber - 1) then some range else none := findRegressionRange?_eq ..
  have steps := analyzeFailure_of_steps works onRecord something s
  unfold analyzeSteps at steps
  rw [walk] at steps
  rw [steps] at ended ⊢
  by_cases fits : fitsInt64 (build.buildNumber - 1) = true
  · rw [if_pos fits] at ended ⊢
    dsimp only at ended ⊢
    rcases sources.findSuspects_cases build range request.signals with ⟨scored, found⟩ | failed
    · obtain ⟨answer, grouped, grouping, kept, stopped, run⟩ :=
        analyzeRange_of_found (works _) (saved.present rfl) found
      rw [run] at ended ⊢
      cases answer with
      | error e =>
        exact absurd running (ended.not_running (a := walked) key (saved.again kept rfl))
      | ok membership => exact ⟨scored, membership, grouped, found, grouping, kept, rfl⟩
    · obtain ⟨b, after, run, written, failed⟩ :=
        analyzeRange_of_failed (works _) (saved.present rfl) failed
      rw [if_pos rfl] at written
      subst written
      rw [run] at ended
      exact absurd running (ended.not_running (a := walked) key (saved.again failed rfl))
  · rw [if_neg fits] at ended
    exact absurd running (ended.not_running key saved)

/-- An analysis that comes to its end leaves its findings, the groups as grouping the failure left
them, and what was sent for it. -/
theorem analyzeFailure_leaves (works : services.StoreWorks) (sources : services.SourcesWork)
    (onRecord : buildOnRecord services.history request.key.build = .ok build)
    (something : request.steps services build ≠ [])
    (ended : request.EndedIn ((analyzeFailure services request).runOn s).2) :
    let range := request.range services build
    let after := ((analyzeFailure services request).runOn s).2
    ∃ scored membership grouped,
      findSuspects services build range request.signals = .ok scored ∧
      (groupFailure services request build range request.signals).runOn (s.counting
          (.suspectsFound request.key.kind.text scored.suspects.length)) =
        (.ok membership, grouped) ∧
      after.store.groups = grouped.store.groups ∧
      after.submissions = request.sent services s build range scored membership ∧
      ∃ a, after.store.analysis? request.key = some a ∧
        a.findings = (request.concluded s range scored membership).findings := by
  intro range after
  let b := request.begun s
  let walked : Analysis := { b with failedSteps := range.failedSteps }
  have key : b.key = request.key := Analysis.begun_key ..
  obtain ⟨scored, membership, grouped, found, grouping, saved, run⟩ :=
    analyzeFailure_reaches works sources onRecord something ended
  let ungrouped := s.counting (.suspectsFound request.key.kind.text scored.suspects.length)
  -- The two writes of the analysis before it do not show in what grouping comes to.
  have frames := groupFailure_frames services request build range request.signals
  have framed := frames.runOn (ungrouped.withAnalysis b) walked
  rw [frames.runOn ungrouped b] at framed
  cases ran : (groupFailure services request build range request.signals).runOn ungrouped
  rw [ran] at framed
  cases grouping.symm.trans framed
  have concludedKey : ((walked.withSuspects scored).withGroup membership).key = request.key :=
    (Analysis.withGroup_key ..).trans key
  obtain ⟨groups, submissions, findings⟩ := concludeSteps_leaves works concludedKey
    (saved.present key) build range request.signals membership
  have left : after = _ := congrArg Prod.snd run
  refine ⟨scored, membership, _, found, ran, ?_, ?_, ?_⟩
  · rw [left]
    exact groups
  · rw [left]
    have verdict : ((walked.withSuspects scored).withGroup membership).hasVerdict = b.hasVerdict :=
      Analysis.hasVerdict_congr (congrArg VerdictRecord.tryJobPhase
        (Analysis.withGroup_verdictRecord (walked.withSuspects scored) membership))
    have suspects : ((walked.withSuspects scored).withGroup membership).suspects =
        scored.suspects := Analysis.withGroup_suspects ..
    have same := (s.saves_withAnalysis b).toSameTryJobs.trans saved.toSameTryJobs
    rw [verdict, suspects, same.submissions] at submissions
    refine submissions.trans ?_
    unfold AnalysisRequest.sent
    split
    · rfl
    · cases tryJobRange services.config request.key.kind build
        (stepsToBisect request.key.kind build range membership) range.builds request.signals with
      | ok bisected => exact scheduleTryJob_submissions_congr (works _) same ..
      | error e => rfl
  · rw [left]
    exact findings

end CulpritFinding
