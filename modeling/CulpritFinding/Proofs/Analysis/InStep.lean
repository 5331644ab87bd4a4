import CulpritFinding.Proofs.Analysis.Rerun
import CulpritFinding.Proofs.Analysis.Settled
import CulpritFinding.Proofs.Analysis.VerdictPhase

namespace CulpritFinding

namespace TryJobPhase

/-- Whether a phase of an analysis tells the same as a status of its try job. -/
def agreesWith : TryJobPhase → TryJobStatus → Bool
  | scheduled, .pending | running, .running | completed, .completed | flaky, .completed
  | error, .error => true
  | _, _ => false

/-- A phase and a status that keep step, of a try job that has run since the analysis or has not. An
analysis that stopped has told of no try job. -/
inductive InStep : TryJobPhase → TryJobStatus → (ran stopped : Bool) → Prop
  | scheduled : InStep scheduled .pending false false
  | running : InStep running .running true false
  | setBack : InStep running .pending true false
  | completed {ran : Bool} : InStep completed .completed ran false
  | flaky {ran : Bool} : InStep flaky .completed ran false
  | error {ran : Bool} : InStep error .error ran false
  | stopped {status : TryJobStatus} {ran : Bool} : InStep notNeeded status ran true

variable {phase : TryJobPhase} {status : TryJobStatus} {ran stopped : Bool}

theorem InStep.agreesWith_iff (inStep : phase.InStep status ran stopped) :
    phase.agreesWith status = true ↔ ¬ (status = .pending ∧ ran = true) ∧ stopped = false := by
  cases inStep <;> simp [agreesWith]

theorem InStep.running_of_setBack (inStep : phase.InStep .pending true false) :
    phase = .running := by
  cases inStep
  rfl

theorem InStep.notNeeded_of_stopped (inStep : phase.InStep status ran true) :
    phase = .notNeeded := by
  cases inStep
  rfl

theorem InStep.stays (inStep : phase.InStep status ran stopped) :
    phase.InStep status (decide (status = .running) || ran) stopped := by
  cases inStep <;> constructor

theorem InStep.ongoing (inStep : phase.InStep status ran stopped)
    (ongoing : status.isTerminal = false) :
    stopped = true ∧ phase = .notNeeded ∨
      stopped = false ∧ (phase = .scheduled ∧ ran = false ∨ phase = .running ∧ ran = true) := by
  cases inStep with
  | scheduled => exact .inr ⟨rfl, .inl ⟨rfl, rfl⟩⟩
  | running => exact .inr ⟨rfl, .inr ⟨rfl, rfl⟩⟩
  | setBack => exact .inr ⟨rfl, .inr ⟨rfl, rfl⟩⟩
  | completed => cases ongoing
  | flaky => cases ongoing
  | error => cases ongoing
  | stopped => exact .inl ⟨rfl, rfl⟩

end TryJobPhase

open EngineState

variable {services : Services} {request : AnalysisRequest} {s s' : EngineState}
  {settings : FailureKey → Setting} {setting : Setting} {ran stopped : Bool} {key : FailureKey}
  {job : TryJob}

theorem Analysis.inStep_of_hasVerdict {a : Analysis} {status : TryJobStatus}
    (known : a.hasVerdict = true) (inStep : a.tryJobPhase.InStep status ran stopped) (ran' : Bool) :
    a.tryJobPhase.InStep status ran' false := by
  unfold hasVerdict at known
  generalize a.tryJobPhase = phase at known inStep ⊢
  cases inStep <;> first | constructor | cases known

theorem Analysis.follow_notNeeded {a : Analysis} (stopped : a.tryJobPhase = .notNeeded)
    (next : TryJob) (now : Instant) : (a.follow next now).tryJobPhase = .notNeeded := by
  have waits : a.awaitsVerdict = false := by
    unfold awaitsVerdict
    rw [stopped]
    rfl
  unfold follow
  cases next.status with
  | pending => exact stopped
  | completed =>
    dsimp only
    rw [withVerdict_tryJobPhase, waits, if_neg Bool.false_ne_true, stopped]
  | running | error =>
    unfold after
    dsimp only
    rw [stopped]
    rfl

theorem Analysis.follow_inStep {a : Analysis}
    (inStep : a.tryJobPhase.InStep job.status ran stopped)
    (ongoing : job.status.isTerminal = false) (next : TryJob) (now : Instant) :
    (a.follow next now).tryJobPhase.InStep next.status
      (decide (next.status = .running) || ran) stopped := by
  rcases inStep.ongoing ongoing with ⟨rfl, phase⟩ | ⟨rfl, phases⟩
  · rw [follow_notNeeded phase]
    exact .stopped
  unfold follow
  cases next.status with
  | pending =>
    dsimp only
    rcases phases with ⟨phase, rfl⟩ | ⟨phase, rfl⟩ <;> rw [phase]
    · exact .scheduled
    · exact .setBack
  | running =>
    unfold after
    dsimp only
    rcases phases with ⟨phase, -⟩ | ⟨phase, -⟩ <;> rw [phase] <;> exact .running
  | error =>
    unfold after
    dsimp only
    rcases phases with ⟨phase, -⟩ | ⟨phase, -⟩ <;> rw [phase] <;> exact .error
  | completed =>
    have waits : a.awaitsVerdict = true := by
      unfold awaitsVerdict
      rcases phases with ⟨phase, -⟩ | ⟨phase, -⟩ <;> rw [phase] <;> rfl
    dsimp only
    rw [withVerdict_tryJobPhase, waits, if_pos rfl]
    cases next.verdict <;> constructor

/-- The try job of a failure that analyses of its setting bisect, with an analysis in step. -/
structure Tracks (setting : Setting) (ran stopped : Bool) (s : EngineState) (key : FailureKey)
    (job : TryJob) : Prop where
  bisected : ∃ build, setting.Bisectable key build s.store
  inStep : ∃ a, s.store.analysis? key = some a ∧ a.tryJobPhase.InStep job.status ran stopped

theorem Tracks.stays (tracks : Tracks setting ran stopped s key job)
    (bisected : ∃ build, setting.Bisectable key build s'.store)
    (same : s'.store.analysis? key = s.store.analysis? key) :
    Tracks setting (decide (job.status = .running) || ran) stopped s' key job := by
  obtain ⟨a, analyzed, inStep⟩ := tracks.inStep
  exact ⟨bisected, a, same.trans analyzed, inStep.stays⟩

theorem FollowUpEffect.tracks {status : ExternalStatus} {now : Instant}
    {ran stopped : FailureKey → Bool} (effect : FollowUpEffect status now s s')
    (tracked : ∀ {key job}, s.store.tryJob? key = some job →
      Tracks (settings key) (ran key) (stopped key) s key job)
    (lasts : ∀ key, (∃ build, (settings key).Bisectable key build s.store) →
      ∃ build, (settings key).Bisectable key build s'.store)
    (stored : s'.store.tryJob? key = some job) :
    Tracks (settings key) (decide (job.status = .running) || ran key) (stopped key) s' key job := by
  cases effect with
  | kept analyses jobs =>
    rw [jobs] at stored
    have tracks := tracked stored
    exact tracks.stays (lasts key tracks.bisected) (analyses key)
  | unasked former running missing =>
    obtain ⟨a, analyzed, -⟩ := (tracked former).inStep
    cases missing.symm.trans analyzed
  | @moved moved former a found running analyzed jobs analyses =>
    rw [jobs] at stored
    split at stored
    · subst key
      cases stored
      have tracks := tracked found
      obtain ⟨b, analyzed', inStep⟩ := tracks.inStep
      cases analyzed.symm.trans analyzed'
      refine ⟨lasts moved tracks.bisected, _, ?_, Analysis.follow_inStep inStep running _ now⟩
      rw [analyses, if_pos rfl]
    · have tracks := tracked stored
      refine tracks.stays (lasts key tracks.bisected) ?_
      rw [analyses, if_neg ‹_›]

theorem AnalysisEnding.tracks {r : Except AnalysisError AnalysisOutcome}
    (ending : AnalysisEnding services request s r s')
    (decided : (request.begun s).hasVerdict = true)
    (tracks : Tracks setting ran stopped s request.key job)
    (bisected : ∃ build, setting.Bisectable request.key build s'.store) (ran' : Bool) :
    Tracks setting ran' false s' request.key job := by
  obtain ⟨a, key, saved, record⟩ := ending.verdictRecord decided
  obtain ⟨previous, analyzed, known⟩ := AnalysisRequest.begun_hasVerdict_iff.mp decided
  obtain ⟨b, analyzed', inStep⟩ := tracks.inStep
  cases (Option.mem_def.mp analyzed).symm.trans analyzed'
  have phase := congrArg VerdictRecord.tryJobPhase record
  rw [begun_of_hasVerdict analyzed known] at phase
  refine ⟨bisected, a, key ▸ saved.stored, ?_⟩
  have phase : a.tryJobPhase = previous.tryJobPhase := phase
  rw [phase]
  exact Analysis.inStep_of_hasVerdict known inStep ran'

theorem Undecided.tracks {r : Except AnalysisError AnalysisOutcome} {asked : FailureKey → Bool}
    (undecided : Undecided services request s r s') (followed : Followed asked s)
    (keyed : s.store.Keyed)
    (bisected : ∀ {job}, s.store.tryJob? request.key = some job →
      ∃ build, (request.setting services).Bisectable request.key build s.store)
    (lasts : ∀ build, (request.setting services).Bisectable request.key build s.store →
      (request.setting services).Bisectable request.key build s'.store)
    (stops : stopped = true ↔ r = .error .outOfRange)
    (stored : s'.store.tryJob? request.key = some job) :
    Tracks (request.setting services) (decide (job.status = .running)) stopped s' request.key
      job := by
  cases undecided with
  | idle same idle =>
    -- A try job on record was bisected under this setting before, and would be again.
    rw [same.tryJob?] at stored
    obtain ⟨build, bisectable⟩ := bisected stored
    exact absurd bisectable (idle build)
  | stopped saved key phase answer =>
    rw [saved.tryJob?] at stored
    obtain ⟨build, bisectable⟩ := bisected stored
    refine ⟨⟨build, lasts build bisectable⟩, _, key ▸ saved.stored, ?_⟩
    rw [phase, stops.mpr answer]
    exact .stopped
  | started saved key phase starting goesOn bisectable =>
    have keyed := saved.keyed keyed
    obtain rfl : stopped = false := Bool.eq_false_iff.mpr fun stopped => goesOn (stops.mp stopped)
    cases starting with
    | scheduled scheduling =>
      obtain ⟨handedOut, ongoing, -⟩ := scheduling.handedOut keyed
      cases handedOut.symm.trans stored
      have triggered := followed.triggered keyed saved.toSameTryJobs scheduling
      refine ⟨⟨_, bisectable⟩, _,
        (scheduling.analysis?_withAnalysis saved key ?_ request.key).trans (if_pos rfl), ?_⟩
      · exact (Analysis.withTryJob_key ..).trans key
      · rw [Analysis.withTryJob_tryJobPhase phase triggered]
        generalize job.status = status at ongoing ⊢
        cases status with
        | pending => exact .scheduled
        | running => exact .running
        | completed => cases ongoing
        | error => cases ongoing
    | outOfRange => exact absurd rfl goesOn
    | refused scheduling =>
      obtain ⟨failed, refused, status⟩ := scheduling.refused_status keyed
      cases refused.symm.trans stored
      refine ⟨⟨_, bisectable⟩, _,
        (scheduling.analysis?_withAnalysis saved key ?_ request.key).trans (if_pos rfl), ?_⟩
      · exact key
      · unfold Analysis.after
        rw [phase, status]
        exact .error

namespace Episode

def analyzes (e : Episode) (key : FailureKey) : Bool :=
  match e.call with
  | .analyze request => request.key = key
  | _ => false

def stops (e : Episode) : Bool :=
  match e.answer with
  | .error .outOfRange => true
  | _ => false

def knowsVerdict (e : Episode) (key : FailureKey) : Bool :=
  (e.before.store.analysis? key).any (·.hasVerdict)

def leavesRunning (e : Episode) (key : FailureKey) : Bool :=
  (e.after.store.tryJob? key).any (·.status = .running)

/-- A call whose store and sources work, where every failure is analyzed under the setting that is
fixed for it. -/
structure Steady (settings : FailureKey → Setting) (e : Episode) : Prop extends e.Analyzes where
  sources : e.services.SourcesWork
  setting : ∀ {request}, e.call = .analyze request →
    request.setting e.services = settings request.key
  fresh : ∀ {request}, e.call = .analyze request →
    ∀ g ∈ e.before.store.groups, g.id ≠ request.freshGroupId

end Episode

/-- Whether the try job of a failure was running after the latest analysis of the failure, or after
a call since then. -/
def ranSince (key : FailureKey) : List Episode → Bool
  | [] => false
  | e :: past => e.leavesRunning key || !e.analyzes key && ranSince key past

/-- Whether the latest analysis of a failure stopped, with no verdict known. -/
def stoppedLast (key : FailureKey) : List Episode → Bool
  | [] => false
  | e :: past =>
    if e.analyzes key then e.stops && !e.knowsVerdict key else stoppedLast key past

variable {e : Episode} {past : List Episode}

theorem ranSince_cons (stored : e.after.store.tryJob? key = some job) (past : List Episode) :
    ranSince key (e :: past) =
      (decide (job.status = .running) || !e.analyzes key && ranSince key past) := by
  rw [ranSince, Episode.leavesRunning, stored]
  rfl

theorem Episode.analyzes_of_no_trigger (silent : e.call.triggers? = none) (key : FailureKey) :
    e.analyzes key = false := by
  unfold analyzes
  cases call : e.call with
  | analyze request =>
    rw [call] at silent
    cases silent
  | _ => rfl

theorem Run.bisectable_lasts {admits : Episode → Prop} (run : Run admits past e.before)
    {build : Build} (bisectable : setting.Bisectable key build e.before.store) :
    setting.Bisectable key build e.after.store :=
  bisectable.lasts run.sound run.groups_unique e.services e.call

theorem Episode.stops_iff {r : Except AnalysisError AnalysisOutcome}
    (answer : e.answer = r.map .outcome) : e.stops = true ↔ r = .error .outOfRange := by
  unfold stops
  rw [answer]
  rcases r with (_ | _) | _ <;> simp [Except.map]

theorem Episode.knowsVerdict_eq (e : Episode) (request : AnalysisRequest) :
    e.knowsVerdict request.key = (request.begun e.before).hasVerdict := by
  rw [Bool.eq_iff_iff, AnalysisRequest.begun_hasVerdict_iff, knowsVerdict, Option.any_eq_true]
  rfl

section

variable (steady : e.Steady settings) (run : Run (Episode.Steady settings) past e.before)
  (tracked : ∀ {key job}, e.before.store.tryJob? key = some job →
    Tracks (settings key) (ranSince key past) (stoppedLast key past) e.before key job)

include steady run tracked

theorem Episode.Steady.tracks_analyzed {request : AnalysisRequest}
    {r : Except AnalysisError AnalysisOutcome} (call : e.call = .analyze request)
    (ending : AnalysisEnding e.services request e.before r e.after)
    (stored : e.after.store.tryJob? request.key = some job) :
    Tracks (settings request.key) (decide (job.status = .running))
      (e.stops && !e.knowsVerdict request.key) e.after request.key job := by
  have keyed := run.sound.toKeyed
  have lasts (build : Build)
      (bisectable : (settings request.key).Bisectable request.key build e.before.store) :
      (settings request.key).Bisectable request.key build e.after.store :=
    run.bisectable_lasts bisectable
  rw [e.knowsVerdict_eq request]
  cases decided : (request.begun e.before).hasVerdict with
  | true =>
    obtain ⟨a, -, saved, -⟩ := ending.verdictRecord decided
    rw [saved.tryJob?] at stored
    have tracks := tracked stored
    rw [Bool.not_true, Bool.and_false]
    exact ending.tracks decided tracks (tracks.bisected.imp lasts) _
  | false =>
    have setting := steady.setting call
    have undecided := analyzeFailure_undecided steady.works steady.sources keyed
      (steady.fresh call) decided
    have ran : ((analyzeFailure e.services request).runOn e.before).1.map .outcome = e.answer ∧
        ((analyzeFailure e.services request).runOn e.before).2 = e.after := by
      unfold Episode.answer Episode.after
      rw [call, Call.run, Engine.runOn_map]
      exact ⟨rfl, rfl⟩
    dsimp only at undecided
    rw [ran.2] at undecided
    have followed := (run.mono fun _ steady => steady.toAnalyzes).followed
    have tracks := undecided.tracks followed keyed
      (fun stored => setting ▸ (tracked stored).bisected) (setting ▸ lasts)
      (e.stops_iff ran.1.symm) stored
    rw [Bool.not_false, Bool.and_true]
    rwa [setting] at tracks

theorem Episode.Steady.tracks (stored : e.after.store.tryJob? key = some job) :
    Tracks (settings key) (ranSince key (e :: past)) (stoppedLast key (e :: past)) e.after key
      job := by
  have keyed := run.sound.toKeyed
  have course := Episode.course keyed fun _ => steady.works
  rw [ranSince_cons stored, stoppedLast]
  cases course.analysis steady.about with
  | followUp call answer ending =>
    rw [Episode.analyzes_of_no_trigger call]
    exact (ending.effect steady.works keyed).tracks tracked
      (fun _ bisected => bisected.imp fun _ => run.bisectable_lasts) stored
  | unanswered call answer after =>
    rw [Episode.analyzes_of_no_trigger call]
    rw [after] at stored ⊢
    exact (tracked stored).stays (tracked stored).bisected rfl
  | @ending request r call answer ending =>
    have analyzes : e.analyzes key = decide (request.key = key) := by
      unfold Episode.analyzes
      rw [call]
    rw [analyzes]
    by_cases same : request.key = key
    · subst key
      simpa using steady.tracks_analyzed run tracked call ending stored
    · obtain ⟨a, -, analyses⟩ := ending.analysis?
      rw [ending.others keyed same] at stored
      have tracks := tracked stored
      simpa [same] using tracks.stays (tracks.bisected.imp fun _ => run.bisectable_lasts)
        ((analyses key).trans (if_neg same))

end

theorem Run.tracks (run : Run (Episode.Steady settings) past s)
    (stored : s.store.tryJob? key = some job) :
    Tracks (settings key) (ranSince key past) (stoppedLast key past) s key job := by
  induction run generalizing key job with
  | start => cases stored
  | step run steady tracked => exact steady.tracks run tracked stored

/-- However failures are analyzed and statuses come, the phase of an analysis agrees with the status
of its try job, unless the try job was running since the latest analysis and is pending again, or
the latest analysis stopped. The phase is running then, or tells of no try job. -/
theorem Run.phase_agrees_iff (run : Run (Episode.Steady settings) past s)
    (stored : s.store.tryJob? key = some job) :
    ∃ a, s.store.analysis? key = some a ∧
      (a.tryJobPhase.agreesWith job.status = true ↔
        ¬ (job.status = .pending ∧ ranSince key past = true) ∧ stoppedLast key past = false) ∧
      (stoppedLast key past = true → a.tryJobPhase = .notNeeded) ∧
      (stoppedLast key past = false → job.status = .pending → ranSince key past = true →
        a.tryJobPhase = .running) := by
  obtain ⟨a, analyzed, inStep⟩ := (run.tracks stored).inStep
  refine ⟨a, analyzed, inStep.agreesWith_iff, fun stopped => ?_, fun goesOn pending ran => ?_⟩
  · rw [stopped] at inStep
    exact inStep.notNeeded_of_stopped
  · rw [pending, ran, goesOn] at inStep
    exact inStep.running_of_setBack

namespace Rescheduled

def scheduled : Episode := ⟨.recalling "8000001", .analyze (brokenRequest 0), .initial⟩

def started : Episode :=
  ⟨.recalling "8000001", .follow "8000001" (.started none) ⟨60, 0⟩, scheduled.after⟩

def rescheduled : Episode :=
  ⟨.recalling "8000001", .follow "8000001" .scheduled ⟨120, 0⟩, started.after⟩

theorem run : Run (Episode.Steady fun _ => (brokenRequest 0).setting (.recalling "8000001"))
    [rescheduled, started, scheduled] rescheduled.after := by
  have works := Services.recalling_works "8000001"
  have sources : (Services.recalling "8000001").SourcesWork :=
    ⟨fun _ _ => ⟨_, rfl⟩, fun _ _ => ⟨_, rfl⟩⟩
  refine .step (.step (.step .start ?_) ?_) ?_
  · refine ⟨⟨works, rfl⟩, sources, ?_, ?_⟩ <;> rintro _ ⟨⟩
    · rfl
    · exact nofun
  · exact ⟨⟨works, rfl⟩, sources, nofun, nofun⟩
  · exact ⟨⟨works, rfl⟩, sources, nofun, nofun⟩

theorem running_while_pending :
    ∃ a job, rescheduled.after.store.analysis? brokenCompile = some a ∧
      rescheduled.after.store.tryJob? brokenCompile = some job ∧
      job.status = .pending ∧ a.tryJobPhase = .running ∧
      a.tryJobPhase.agreesWith job.status = false := by
  have pending : (rescheduled.after.store.tryJob? brokenCompile).map (·.status) =
      some .pending := by decide +kernel
  have ran : ranSince brokenCompile [rescheduled, started, scheduled] = true := by decide +kernel
  have goesOn : stoppedLast brokenCompile [rescheduled, started, scheduled] = false := by
    decide +kernel
  obtain ⟨job, stored, status⟩ := Option.map_eq_some_iff.mp pending
  obtain ⟨a, analyzed, agrees, -, running⟩ := run.phase_agrees_iff stored
  refine ⟨a, job, analyzed, stored, status, running goesOn status ran, ?_⟩
  exact Bool.eq_false_iff.mpr fun same => (agrees.mp same).1 ⟨status, ran⟩

end Rescheduled

end CulpritFinding
