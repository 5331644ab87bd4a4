import CulpritFinding.FollowUp
import CulpritFinding.Proofs.Analysis.Ending
import CulpritFinding.Proofs.TryJob.Following

namespace CulpritFinding

namespace Analysis

theorem withVerdict_key (a : Analysis) (verdict : Verdict) (now : Instant) :
    (a.withVerdict verdict now).key = a.key := by
  cases verdict <;> rfl

theorem follow_key (a : Analysis) (job : TryJob) (now : Instant) :
    (a.follow job now).key = a.key := by
  unfold follow
  cases job.status with
  | completed => exact withVerdict_key ..
  | _ => rfl

end Analysis

open EngineState

variable {services : Services} {s s' : EngineState}

/-- What becomes of a status: of the try job, and of the analysis that asked for it. -/
inductive FollowUpEnding (services : Services) (tryJobId : String) (status : ExternalStatus)
    (now : Instant) (s : EngineState) : Except AnalysisError FollowUp → EngineState → Prop
  | failed {e : AnalysisError} {after : EngineState}
      (following : Following services tryJobId status now s (.error e) after) :
      FollowUpEnding services tryJobId status now s (.error e) after
  | ignored {job : TryJob} {after : EngineState}
      (following : Following services tryJobId status now s (.ok (.ignored job)) after) :
      FollowUpEnding services tryJobId status now s (.ok ⟨.ignored job, none, none⟩) after
  | unasked {job : TryJob} {after : EngineState}
      (following : Following services tryJobId status now s (.ok (.updated job)) after)
      (missing : after.store.analysis? job.key = none) :
      FollowUpEnding services tryJobId status now s (.ok ⟨.updated job, none, none⟩) after
  | moved {job : TryJob} {a : Analysis} {middle after : EngineState}
      (following : Following services tryJobId status now s (.ok (.updated job)) middle)
      (stored : middle.store.analysis? job.key = some a)
      (saved : middle.Saves (a.follow job now) after) :
      FollowUpEnding services tryJobId status now s
        (.ok ⟨.updated job, if job.status = .completed then some job.verdict else none,
          some (a.follow job now)⟩) after

theorem FollowUpEnding.keyed {tryJobId : String} {status : ExternalStatus} {now : Instant}
    {r : Except AnalysisError FollowUp}
    (ending : FollowUpEnding services tryJobId status now s r s') (keyed : s.store.Keyed) :
    s'.store.Keyed := by
  cases ending with
  | failed following => exact following.keyed keyed
  | ignored following => exact following.keyed keyed
  | unasked following => exact following.keyed keyed
  | moved following stored saved => exact saved.keyed (following.keyed keyed)

theorem FollowUpEnding.following {tryJobId : String} {status : ExternalStatus} {now : Instant}
    {r : Except AnalysisError FollowUp}
    (ending : FollowUpEnding services tryJobId status now s r s') :
    ∃ update followed, Following services tryJobId status now s update followed ∧
      followed.SameTryJobs s' ∧ r.toOption.map (·.update) = update.toOption := by
  cases ending with
  | failed following => exact ⟨_, _, following, .refl _, rfl⟩
  | ignored following => exact ⟨_, _, following, .refl _, rfl⟩
  | unasked following => exact ⟨_, _, following, .refl _, rfl⟩
  | moved following stored saved => exact ⟨_, _, following, saved.toSameTryJobs, rfl⟩

inductive FollowUpEffect (status : ExternalStatus) (now : Instant) (s s' : EngineState) : Prop
  | kept (analyses : ∀ key, s'.store.analysis? key = s.store.analysis? key)
      (jobs : ∀ key, s'.store.tryJob? key = s.store.tryJob? key) : FollowUpEffect status now s s'
  | unasked {key : FailureKey} {job : TryJob} (stored : s.store.tryJob? key = some job)
      (running : job.status.isTerminal = false) (missing : s.store.analysis? key = none) :
      FollowUpEffect status now s s'
  | moved {key : FailureKey} {job : TryJob} {a : Analysis}
      (stored : s.store.tryJob? key = some job) (running : job.status.isTerminal = false)
      (analyzed : s.store.analysis? key = some a)
      (jobs : ∀ k, s'.store.tryJob? k =
        if key = k then some (job.follow now status) else s.store.tryJob? k)
      (analyses : ∀ k, s'.store.analysis? k =
        if key = k then some (a.follow (job.follow now status) now) else s.store.analysis? k) :
      FollowUpEffect status now s s'

theorem FollowUpEnding.effect (works : services.StoreWorks) (keyed : s.store.Keyed)
    {tryJobId : String} {status : ExternalStatus} {now : Instant}
    {r : Except AnalysisError FollowUp}
    (ending : FollowUpEnding services tryJobId status now s r s') :
    FollowUpEffect status now s s' := by
  have sameAnalyses {update : Except AnalysisError TryJobUpdate} {middle : EngineState}
      (following : Following services tryJobId status now s update middle) (key : FailureKey) :
      middle.store.analysis? key = s.store.analysis? key := by
    unfold Store.analysis?
    rw [following.sameAnalyses]
  cases ending with
  | failed following =>
    refine .kept (sameAnalyses following) fun key => ?_
    cases following with
    | unrecorded fault => cases (works _).symm.trans fault
    | _ => rfl
  | ignored following =>
    refine .kept (sameAnalyses following) fun key => ?_
    cases following
    rfl
  | unasked following missing =>
    obtain ⟨job, stored, running, -, -⟩ := following.moved keyed
    exact .unasked stored running ((sameAnalyses following _).symm.trans missing)
  | moved following analyzed saved =>
    obtain ⟨job, stored, running, rfl, jobs⟩ := following.moved keyed
    have sameKey := (following.keyed keyed).analysis analyzed
    refine .moved stored running ((sameAnalyses following _).symm.trans analyzed)
      (fun k => (saved.tryJob? k).trans (jobs k)) fun k => ?_
    rw [saved.analysis?, Analysis.follow_key, sameKey, sameAnalyses following]

theorem countVerdict_runOn (verdict : Option Verdict) (s : EngineState) :
    ∃ counted,
      (verdict.forM fun v => Engine.record (.verdictRecorded v.outcome) : Engine PUnit).runOn s =
        (.ok (), counted) ∧ s.SameRecords counted := by
  cases verdict with
  | none => exact ⟨s, rfl, .refl s⟩
  | some v => exact ⟨_, rfl, s.sameRecords_counting _⟩

/-- How a status is followed up, whatever operations of the store fail. -/
inductive FollowUpCourse (services : Services) (tryJobId : String) (status : ExternalStatus)
    (now : Instant) (s : EngineState) : Except AnalysisError FollowUp → EngineState → Prop
  | ended {r : Except AnalysisError FollowUp} {after : EngineState}
      (ending : FollowUpEnding services tryJobId status now s r after) :
      FollowUpCourse services tryJobId status now s r after
  | unread {job : TryJob} {reason : String} {after : EngineState}
      (following : Following services tryJobId status now s (.ok (.updated job)) after)
      (fault : services.storeFault .getAnalysis = some reason) :
      FollowUpCourse services tryJobId status now s (.error (.store (.backend reason))) after
  | unsaved {job : TryJob} {reason : String} {middle after : EngineState}
      (following : Following services tryJobId status now s (.ok (.updated job)) middle)
      (fault : services.storeFault .updateAnalysis = some reason)
      (kept : middle.SameRecords after) :
      FollowUpCourse services tryJobId status now s (.error (.store (.backend reason))) after

theorem saveFollowed_runOn (keyed : s.store.Keyed) {tryJobId : String} {status : ExternalStatus}
    {now : Instant} {job : TryJob} {a : Analysis} {middle counted : EngineState}
    (following : Following services tryJobId status now s (.ok (.updated job)) middle)
    (stored : middle.store.analysis? job.key = some a) (kept : middle.SameRecords counted) :
    let run := Engine.runOn (do
      Engine.updateAnalysis services (a.follow job now)
      return ⟨.updated job, if job.status = .completed then some job.verdict else none,
        some (a.follow job now)⟩) counted
    FollowUpCourse services tryJobId status now s run.1 run.2 := by
  cases fault : services.storeFault .updateAnalysis with
  | some reason =>
    have failed : (Engine.updateAnalysis services (a.follow job now)).runOn counted =
        (.error (.store (.backend reason)), counted) := Engine.runOn_write_fault fault ..
    rw [Engine.runOn_bind_error _ failed]
    exact .unsaved following fault kept
  | none =>
    have present : (counted.store.analysis? (a.follow job now).key).isSome := by
      have sameKey := (following.keyed keyed).analysis stored
      rw [Analysis.follow_key, sameKey, kept.analysis?, stored]
      rfl
    rw [Engine.runOn_bind_ok _ (Engine.runOn_updateAnalysis fault _ present),
      Engine.runOn_pure]
    exact .ended (.moved following stored (kept.saves (a.follow job now)))

theorem followTryJob_course (services : Services) (keyed : s.store.Keyed) (tryJobId : String)
    (status : ExternalStatus) (now : Instant) :
    let run := (followTryJob services tryJobId status now).runOn s
    FollowUpCourse services tryJobId status now s run.1 run.2 := by
  have following := updateTryJob_runOn services keyed tryJobId status now
  unfold followTryJob
  dsimp only at following ⊢
  rw [Engine.runOn_bind]
  generalize (updateTryJob services tryJobId status now).runOn s = run at following ⊢
  obtain ⟨r, middle⟩ := run
  cases r with
  | error e => exact .ended (.failed following)
  | ok update =>
    cases update with
    | ignored job => exact .ended (.ignored following)
    | updated job =>
      unfold Engine.analysis?
      dsimp only
      cases unreadable : services.storeFault .getAnalysis with
      | some reason =>
        rw [Engine.runOn_bind_error _ (Engine.runOn_read_fault unreadable ..)]
        exact .unread following unreadable
      | none =>
        rw [Engine.runOn_bind_ok _ (Engine.runOn_read unreadable ..)]
        cases stored : middle.store.analysis? job.key with
        | none => exact .ended (.unasked following stored)
        | some a =>
          dsimp only
          cases job.hasReport with
          | false => exact saveFollowed_runOn keyed following stored (.refl middle)
          | true =>
            obtain ⟨counted, run, kept⟩ := countVerdict_runOn
              (if job.status = .completed then some job.verdict else none) middle
            simp only [if_true]
            rw [Engine.runOn_bind_ok _ run]
            exact saveFollowed_runOn keyed following stored kept

theorem followTryJob_runOn (works : services.StoreWorks) (keyed : s.store.Keyed)
    (tryJobId : String) (status : ExternalStatus) (now : Instant) :
    let run := (followTryJob services tryJobId status now).runOn s
    FollowUpEnding services tryJobId status now s run.1 run.2 := by
  have course := followTryJob_course services keyed tryJobId status now
  dsimp only at course ⊢
  generalize (followTryJob services tryJobId status now).runOn s = run at course ⊢
  obtain ⟨r, after⟩ := run
  cases course with
  | ended ending => exact ending
  | unread following fault => cases (works _).symm.trans fault
  | unsaved following fault => cases (works _).symm.trans fault

theorem pollTryJob_runOn (works : services.StoreWorks) (keyed : s.store.Keyed)
    (tryJobId : String) (now : Instant) :
    let run := (pollTryJob services tryJobId now).runOn s
    (∃ e, services.scheduler.status tryJobId = .error e ∧
        run = (.error (.tryJobScheduling tryJobId e), s)) ∨
      ∃ status, services.scheduler.status tryJobId = .ok status ∧
        FollowUpEnding services tryJobId status now s run.1 run.2 := by
  unfold pollTryJob
  cases asked : services.scheduler.status tryJobId with
  | error e => exact .inl ⟨e, rfl, rfl⟩
  | ok status => exact .inr ⟨status, rfl, followTryJob_runOn works keyed tryJobId status now⟩

end CulpritFinding
