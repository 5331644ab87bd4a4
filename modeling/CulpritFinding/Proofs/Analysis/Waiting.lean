import CulpritFinding.Proofs.Analysis.FollowUp

namespace CulpritFinding

def Verdict.phase : Verdict → TryJobPhase
  | .flaky _ => .flaky
  | _ => .completed

namespace Analysis

def awaitsVerdict (a : Analysis) : Bool :=
  a.tryJobPhase = .scheduled || a.tryJobPhase = .running

theorem hasVerdict_started (a : Analysis) : (a.after .started).hasVerdict = a.hasVerdict := by
  unfold hasVerdict after
  cases a.tryJobPhase <;> rfl

theorem awaitsVerdict_started (a : Analysis) :
    (a.after .started).awaitsVerdict = a.awaitsVerdict := by
  unfold awaitsVerdict after
  cases a.tryJobPhase <;> rfl

theorem withVerdict_tryJobPhase (a : Analysis) (verdict : Verdict) (now : Instant) :
    (a.withVerdict verdict now).tryJobPhase =
      if a.awaitsVerdict then verdict.phase else a.tryJobPhase := by
  unfold awaitsVerdict
  cases phase : a.tryJobPhase <;> cases verdict <;>
    simp only [withVerdict, after, TryJobPhase.apply, TryJobPhase.next?, phase] <;> rfl

theorem hasVerdict_of_phase {a : Analysis} {verdict : Verdict}
    (phase : a.tryJobPhase = verdict.phase) : a.hasVerdict = true := by
  unfold hasVerdict
  rw [phase]
  cases verdict <;> rfl

theorem follow_of_running {a : Analysis} {job : TryJob} (running : job.status.isTerminal = false)
    (now : Instant) :
    (a.follow job now).hasVerdict = a.hasVerdict ∧
      (a.follow job now).awaitsVerdict = a.awaitsVerdict := by
  unfold follow
  cases status : job.status <;> rw [status] at running
  · exact ⟨rfl, rfl⟩
  · exact ⟨hasVerdict_started a, awaitsVerdict_started a⟩
  · cases running
  · cases running

theorem withTryJob_tryJobPhase {a : Analysis} {job : TryJob} (phase : a.tryJobPhase = .notNeeded)
    (triggered : job.tryJobIds ≠ []) :
    ((a.after (.evaluated true)).withTryJob job).tryJobPhase =
      if job.status = .running then .running else .scheduled := by
  have last := List.getLast?_eq_some_getLast triggered
  unfold withTryJob after
  rw [last, phase]
  dsimp only
  split <;> rfl

theorem withTryJob_awaits {a : Analysis} {job : TryJob} (phase : a.tryJobPhase = .notNeeded)
    (triggered : job.tryJobIds ≠ []) :
    ((a.after (.evaluated true)).withTryJob job).hasVerdict = false ∧
      ((a.after (.evaluated true)).withTryJob job).awaitsVerdict = true := by
  unfold hasVerdict awaitsVerdict
  rw [withTryJob_tryJobPhase phase triggered]
  split <;> exact ⟨rfl, rfl⟩

end Analysis

/-- A verdict is known only of a try job that has ended. The analysis of a try job that is in flight
waits for it if it asked for it. -/
structure Followed (asked : FailureKey → Bool) (s : EngineState) : Prop where
  known : ∀ {key a}, s.store.analysis? key = some a → a.hasVerdict = true →
    ∃ job, s.store.tryJob? key = some job ∧ job.status.isTerminal = true
  busy : ∀ {key job}, s.store.tryJob? key = some job → job.status.isTerminal = false →
    job.tryJobIds ≠ [] ∧ ∃ a, s.store.analysis? key = some a ∧ a.awaitsVerdict = asked key

variable {services : Services} {s s' : EngineState} {asked : FailureKey → Bool}
  {key : FailureKey} {now : Instant}

theorem Followed.of_same (followed : Followed asked s)
    (analyses : ∀ key, s'.store.analysis? key = s.store.analysis? key)
    (jobs : ∀ key, s'.store.tryJob? key = s.store.tryJob? key) : Followed asked s' where
  known := by
    intro key a stored known
    rw [analyses] at stored
    rw [jobs]
    exact followed.known stored known
  busy := by
    intro key job stored running
    rw [jobs] at stored
    rw [analyses]
    exact followed.busy stored running

theorem Followed.undecided (followed : Followed asked s) {job : TryJob} {a : Analysis}
    (stored : s.store.tryJob? key = some job) (running : job.status.isTerminal = false)
    (analyzed : s.store.analysis? key = some a) : a.hasVerdict = false := by
  refine Bool.eq_false_iff.mpr fun known => ?_
  obtain ⟨finished, stored', ended⟩ := followed.known analyzed known
  cases stored.symm.trans stored'
  cases running.symm.trans ended

theorem Followed.followUp (followed : Followed asked s) (works : services.StoreWorks)
    (keyed : s.store.Keyed) {tryJobId : String} {status : ExternalStatus}
    {r : Except AnalysisError FollowUp}
    (ending : FollowUpEnding services tryJobId status now s r s') : Followed asked s' := by
  cases ending.effect works keyed with
  | kept analyses jobs => exact followed.of_same analyses jobs
  | unasked stored running missing =>
    obtain ⟨-, a, analyzed, -⟩ := followed.busy stored running
    cases missing.symm.trans analyzed
  | @moved key job a stored running analyzed jobs analyses =>
    have undecided := followed.undecided stored running analyzed
    constructor
    · intro k b stored' known
      rw [analyses] at stored'
      rw [jobs]
      split at stored'
      · rw [if_pos ‹_›]
        cases stored'
        cases finished : (job.follow now status).status.isTerminal with
        | true => exact ⟨_, rfl, finished⟩
        | false =>
          rw [(Analysis.follow_of_running finished now).1, undecided] at known
          cases known
      · rw [if_neg ‹_›]
        exact followed.known stored' known
    · intro k found stored' running'
      rw [jobs] at stored'
      rw [analyses]
      split at stored'
      · subst k
        cases stored'
        obtain ⟨triggered, b, analyzed', waits⟩ := followed.busy stored running
        cases analyzed.symm.trans analyzed'
        rw [if_pos rfl, TryJob.follow_tryJobIds]
        refine ⟨triggered, _, rfl, ?_⟩
        rw [(Analysis.follow_of_running running' now).2]
        exact waits
      · rw [if_neg ‹_›]
        exact followed.busy stored' running'

theorem Followed.ruling (followed : Followed asked s) (keyed : s.store.Keyed)
    {tryJobId : String} {status : ExternalStatus} {r : Except AnalysisError FollowUp}
    (ending : FollowUpEnding services tryJobId status now s r s') {update : TryJobUpdate}
    {verdict : Verdict} {a : Option Analysis} (answered : r = .ok ⟨update, some verdict, a⟩) :
    ∃ ruled, a = some ruled ∧ s'.store.analysis? ruled.key = some ruled ∧
      (ruled.tryJobPhase = verdict.phase ↔ asked ruled.key = true) ∧
      (ruled.hasVerdict = true ↔ asked ruled.key = true) := by
  cases ending with
  | failed => cases answered
  | ignored => cases answered
  | unasked => cases answered
  | @moved job b middle after following analyzed saved =>
    obtain ⟨former, stored, running, -, -⟩ := following.moved keyed
    have sameKey := (following.keyed keyed).analysis analyzed
    have analyzed : s.store.analysis? job.key = some b := by
      unfold Store.analysis? at analyzed ⊢
      rw [← following.sameAnalyses]
      exact analyzed
    have undecided := followed.undecided stored running analyzed
    obtain ⟨-, b', analyzed', waits⟩ := followed.busy stored running
    cases analyzed.symm.trans analyzed'
    injection answered with answered
    injection answered with sameUpdate sameVerdict sameAnalysis
    split at sameVerdict
    · cases sameVerdict
      have ruling : b.follow job now = b.withVerdict job.verdict now := by
        unfold Analysis.follow
        rw [‹job.status = .completed›]
      have phase := b.withVerdict_tryJobPhase job.verdict now
      have ruledKey : (b.follow job now).key = job.key := (Analysis.follow_key ..).trans sameKey
      rw [← ruling, waits] at phase
      refine ⟨b.follow job now, sameAnalysis.symm, saved.stored, ?_⟩
      rw [ruledKey]
      cases asks : asked job.key with
      | true =>
        rw [asks, if_pos rfl] at phase
        simp only [phase, Analysis.hasVerdict_of_phase phase, and_self]
      | false =>
        rw [asks, if_neg Bool.false_ne_true] at phase
        have open_ := (Analysis.hasVerdict_congr phase).trans undecided
        have unrecorded : (b.follow job now).tryJobPhase ≠ job.verdict.phase := fun recorded =>
          nomatch open_.symm.trans (Analysis.hasVerdict_of_phase recorded)
        simp only [unrecorded, open_, Bool.false_eq_true, and_self]
    · cases sameVerdict

def handsOut : Except AnalysisError AnalysisOutcome → Bool
  | .ok outcome => outcome.tryJob.isSome
  | .error _ => false

theorem Followed.of_analysis {request : AnalysisRequest} {a : Analysis} {handed : Bool}
    (followed : Followed asked s)
    (analyses : ∀ key, s'.store.analysis? key =
      if request.key = key then some a else s.store.analysis? key)
    (others : ∀ key, request.key ≠ key → s'.store.tryJob? key = s.store.tryJob? key)
    (known : a.hasVerdict = true →
      ∃ job, s'.store.tryJob? request.key = some job ∧ job.status.isTerminal = true)
    (busy : ∀ job, s'.store.tryJob? request.key = some job → job.status.isTerminal = false →
      job.tryJobIds ≠ [] ∧ a.awaitsVerdict = handed) :
    Followed (fun key => if request.key = key then handed else asked key) s' := by
  constructor
  · intro key b stored decided
    rw [analyses] at stored
    split at stored
    · subst key
      cases stored
      exact known decided
    · rw [others key ‹_›]
      exact followed.known stored decided
  · intro key job stored running
    rw [analyses]
    by_cases same : request.key = key
    · subst key
      obtain ⟨triggered, waits⟩ := busy job stored running
      rw [if_pos rfl, if_pos rfl]
      exact ⟨triggered, a, rfl, waits⟩
    · rw [if_neg same, if_neg same]
      rw [others key same] at stored
      exact followed.busy stored running

theorem Followed.of_saved {request : AnalysisRequest} {a : Analysis} {handed : Bool}
    (followed : Followed asked s) (saved : s.Saves a s') (key : a.key = request.key)
    (phase : a.tryJobPhase = (request.begun s).tryJobPhase)
    (silent : handed = true → (request.begun s).hasVerdict = true) :
    Followed (fun key => if request.key = key then handed else asked key) s' := by
  have sameVerdict := Analysis.hasVerdict_congr phase
  refine Followed.of_analysis (a := a) followed (fun k => ?_) (fun k _ => saved.tryJob? k)
    (fun decided => ?_) fun job stored running => ?_
  · rw [saved.analysis?, key]
  · obtain ⟨previous, analyzed, known⟩ :=
      AnalysisRequest.begun_hasVerdict_iff.mp (sameVerdict.symm.trans decided)
    rw [saved.tryJob?]
    exact followed.known analyzed known
  · rw [saved.tryJob?] at stored
    -- The try job is in flight, so that no verdict was carried along.
    have undecided : (request.begun s).hasVerdict = false := by
      refine Bool.eq_false_iff.mpr fun decided => ?_
      obtain ⟨previous, analyzed, known⟩ := AnalysisRequest.begun_hasVerdict_iff.mp decided
      cases (followed.undecided stored running analyzed).symm.trans known
    have unhanded : handed = false :=
      Bool.eq_false_iff.mpr fun handed => nomatch undecided.symm.trans (silent handed)
    refine ⟨(followed.busy stored running).1, ?_⟩
    have open_ : a.tryJobPhase = .notNeeded :=
      phase.trans (Analysis.begun_tryJobPhase undecided)
    unfold Analysis.awaitsVerdict
    rw [open_, unhanded]
    rfl

theorem Followed.triggered {middle : EngineState} (followed : Followed asked s)
    (keyed : middle.store.Keyed) (same : s.SameTryJobs middle) {range : TryJobRange}
    {suspects : List Suspect} {job : TryJob}
    (scheduling : Scheduling services key range suspects now middle (.ok job) s') :
    job.tryJobIds ≠ [] := by
  intro none_
  obtain ⟨-, running, untriggered⟩ := scheduling.handedOut keyed
  have stored := untriggered none_
  rw [same.tryJob?] at stored
  exact (followed.busy stored running).1 none_

theorem Followed.analyze {request : AnalysisRequest} {r : Except AnalysisError AnalysisOutcome}
    (followed : Followed asked s) (keyed : s.store.Keyed)
    (ending : AnalysisEnding services request s r s') :
    Followed (fun key => if request.key = key then handsOut r else asked key) s' := by
  have others (k : FailureKey) (other : request.key ≠ k) := ending.others keyed other
  cases ending with
  | nothingFailed nothing key saved record =>
    exact followed.of_saved saved key (congrArg VerdictRecord.tryJobPhase record) nofun
  | aborted something key saved record =>
    exact followed.of_saved saved key (congrArg VerdictRecord.tryJobPhase record) nofun
  | verdictKnown something key known saved record =>
    exact followed.of_saved saved key (congrArg VerdictRecord.tryJobPhase record) fun _ => known
  | notBisected something key undecided saved phase =>
    exact followed.of_saved saved key
      (phase.trans (Analysis.begun_tryJobPhase undecided).symm) nofun
  | outOfRange something key undecided saved phase =>
    exact followed.of_saved saved key
      (phase.trans (Analysis.begun_tryJobPhase undecided).symm) nofun
  | @scheduled a middle after range job something key undecided saved phase scheduling =>
    have keyed := saved.keyed keyed
    have sameKey := (Analysis.withTryJob_key (a.after (.evaluated true)) job).trans key
    obtain ⟨stored, -, -⟩ := scheduling.handedOut keyed
    have triggered := followed.triggered keyed saved.toSameTryJobs scheduling
    have waits := Analysis.withTryJob_awaits phase triggered
    refine Followed.of_analysis followed (scheduling.analysis?_withAnalysis saved key sameKey)
      others (fun decided => nomatch waits.1.symm.trans decided) fun job' stored' _ => ?_
    cases stored.symm.trans stored'
    exact ⟨triggered, waits.2⟩
  | @refused a middle after range cause something key undecided saved phase scheduling =>
    have keyed := saved.keyed keyed
    obtain ⟨job, stored, failed⟩ := scheduling.refused_status keyed
    refine Followed.of_analysis followed (scheduling.analysis?_withAnalysis saved key key)
      others (fun decided => ?_) fun job' stored' running => ?_
    · unfold Analysis.hasVerdict Analysis.after at decided
      rw [phase] at decided
      cases decided
    · cases stored.symm.trans stored'
      rw [failed] at running
      cases running

end CulpritFinding
