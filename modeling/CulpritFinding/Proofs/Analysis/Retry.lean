import CulpritFinding.Proofs.Sound

namespace CulpritFinding

def TryJobPhase.isOpen : TryJobPhase → Bool
  | needed | scheduled | running => true
  | _ => false

theorem TryJobPhase.apply_failed (phase : TryJobPhase) (reason : String) :
    phase.apply (.failed reason) = if phase.isOpen then error else phase := by
  cases phase <;> rfl

structure Aftermath where
  verdict : Except AnalysisError (Option Verdict)
  tryJob : Option TryJob
  record : Option VerdictRecord

def Aftermath.of (key : FailureKey) (run : Except AnalysisError FollowUp × EngineState) :
    Aftermath where
  verdict := run.1.map (·.verdict)
  tryJob := run.2.store.tryJob? key
  record := (run.2.store.analysis? key).map (·.verdictRecord)

namespace TryJob

def verdict? (j : TryJob) : Option Verdict := if j.status = .completed then some j.verdict else none

def aftermath (moved : TryJob) (stored : Option Analysis) (now : Instant) : Aftermath where
  verdict := .ok (stored.bind fun _ => moved.verdict?)
  tryJob := some moved
  record := stored.map fun a => (a.follow moved now).verdictRecord

theorem follow_follow (j : TryJob) (now : Instant) {status : ExternalStatus}
    (goesOn : status.isEnd = false) :
    (j.follow now status).follow now status = j.follow now status := by
  cases status with
  | completed => cases goesOn
  | _ => rfl

end TryJob

variable {admits : Episode → Prop} {past : List Episode} {s after : EngineState}
  {services broken mended : Services} {id : String} {status : ExternalStatus} {now : Instant}
  {job : TryJob} {cause : AnalysisError}

theorem followTryJob_of_finished (works : services.StoreWorks)
    (found : s.store.tryJobWithId? id = some job) (finished : job.awaits id = false) :
    (followTryJob services id status now).runOn s = (.ok ⟨.ignored job, none, none⟩, s) := by
  have update : (updateTryJob services id status now).runOn s = (.ok (.ignored job), s) := by
    unfold updateTryJob Engine.tryJobWithId?
    rw [Engine.runOn_bind_ok _ (Engine.runOn_read (works _) ..), found]
    simp only [finished, Bool.not_false, if_true]
    rfl
  unfold followTryJob
  rw [Engine.runOn_bind_ok _ update]
  rfl

theorem Following.written {moved : TryJob} (found : s.store.tryJobWithId? id = some job)
    (following : Following services id status now s (.ok (.updated moved)) after) :
    moved = job.follow now status ∧ moved.key = job.key ∧
      after.store.tryJobWithId? id = some moved ∧ after.store.tryJob? job.key = some moved ∧
      ∀ key, after.store.analysis? key = s.store.analysis? key := by
  have analyses := following.sameAnalyses
  cases following with
  | @updated _ measured found' awaits =>
    cases found.symm.trans found'
    have sameKey := job.follow_key now status
    have stored := Store.tryJob?_withTryJob measured.store (job.follow now status) job.key
    rw [if_pos sameKey] at stored
    have carried : id ∈ (job.follow now status).tryJobIds := by
      rw [TryJob.follow_tryJobIds]
      exact List.mem_of_getLast? (TryJob.awaits_iff.mp awaits).2
    have owner := (Store.tryJobOwners_withTryJob measured.store (job.follow now status) id).trans
      (if_pos carried)
    refine ⟨rfl, sameKey, Store.tryJobWithId?_eq_some.mpr ⟨_, owner, sameKey ▸ stored⟩, stored, ?_⟩
    intro key
    unfold Store.analysis?
    rw [analyses]

theorem followTryJob_of_awaited (works : services.StoreWorks) (keyed : s.store.Keyed)
    (found : s.store.tryJobWithId? id = some job) (awaits : job.awaits id = true)
    (status : ExternalStatus) (now : Instant) :
    Aftermath.of job.key ((followTryJob services id status now).runOn s) =
      (job.follow now status).aftermath (s.store.analysis? job.key) now := by
  have ending := followTryJob_runOn works keyed id status now
  dsimp only at ending
  generalize (followTryJob services id status now).runOn s = run at ending ⊢
  obtain ⟨r, after⟩ := run
  cases ending with
  | failed following =>
    cases following with
    | unread fault => cases (works _).symm.trans fault
    | unknown missing => cases missing.symm.trans found
    | unrecorded fault => cases (works _).symm.trans fault
  | ignored following =>
    cases following with
    | ignored found' finished =>
      cases found.symm.trans found'
      cases finished.symm.trans awaits
  | unasked following missing =>
    obtain ⟨rfl, sameKey, -, taken, kept⟩ := following.written found
    rw [sameKey, kept] at missing
    simp [Aftermath.of, TryJob.aftermath, taken, kept, missing, Except.map]
  | moved following stored saved =>
    obtain ⟨rfl, sameKey, -, taken, kept⟩ := following.written found
    have last := saved.analysis? job.key
    rw [Analysis.follow_key, (following.keyed keyed).analysis stored, if_pos sameKey] at last
    rw [sameKey, kept] at stored
    simp [Aftermath.of, TryJob.aftermath, TryJob.verdict?, saved.tryJob?, taken, last, stored,
      Except.map]

def ExternalStatus.isNewsFor (a : Analysis) : ExternalStatus → Bool
  | .completed result _ _ => result = .success || a.tryJobPhase.isOpen
  | _ => false

/-- Whether a call that failed has kept a status from its analysis for good: the status was written
to the try job, which has come to its end by it, and is news for the analysis. -/
def Services.Loses (services : Services) (store : Store) (job : TryJob)
    (status : ExternalStatus) : Prop :=
  services.storeFault .findTryJobById = none ∧ services.storeFault .updateTryJob = none ∧
    ∃ a, store.analysis? job.key = some a ∧ status.isNewsFor a = true

theorem TryJob.aftermath_of_end (j : TryJob) (ends : status.isEnd = true)
    (stored : Option Analysis) (now : Instant) :
    ⟨.ok none, some (j.follow now status), stored.map (·.verdictRecord)⟩ =
        (j.follow now status).aftermath stored now ↔
      ¬ ∃ a, stored = some a ∧ status.isNewsFor a = true := by
  cases stored with
  | none => simp [aftermath]
  | some a =>
    cases status with
    | completed result report endTime =>
      by_cases success : result = .success
      · simp [aftermath, verdict?, follow, finish, ExternalStatus.isNewsFor, success]
      · simp [aftermath, verdict?, follow, finish, ExternalStatus.isNewsFor, success,
          Analysis.follow, Analysis.after, Analysis.verdictRecord, TryJobPhase.apply_failed]
        cases a.tryJobPhase <;> simp [TryJobPhase.isOpen]
    | _ => cases ends

theorem aftermath_of_sameStore (works : services.StoreWorks) (keyed : s.store.Keyed)
    (found : s.store.tryJobWithId? id = some job) (same : after.store = s.store) :
    Aftermath.of job.key ((followTryJob services id status now).runOn after) =
      .of job.key ((followTryJob services id status now).runOn s) := by
  have found' : after.store.tryJobWithId? id = some job := same ▸ found
  cases awaits : job.awaits id with
  | false =>
    rw [followTryJob_of_finished works found awaits, followTryJob_of_finished works found' awaits]
    unfold Aftermath.of
    rw [same]
  | true =>
    rw [followTryJob_of_awaited works keyed found awaits,
      followTryJob_of_awaited works (same ▸ keyed) found' awaits, same]

/-- A status that was written to the try job, before the call failed. -/
structure Torn (services : Services) (id : String) (status : ExternalStatus) (now : Instant)
    (job : TryJob) (s after : EngineState) : Prop where
  readable : services.storeFault .findTryJobById = none
  writable : services.storeFault .updateTryJob = none
  awaits : job.awaits id = true
  found : after.store.tryJobWithId? id = some (job.follow now status)
  stored : after.store.tryJob? job.key = some (job.follow now status)
  analysis? : ∀ key, after.store.analysis? key = s.store.analysis? key

theorem Following.torn {moved : TryJob} {middle : EngineState}
    (following : Following services id status now s (.ok (.updated moved)) middle)
    (known : s.store.tryJobWithId? id = some job) (kept : middle.SameRecords after) :
    Torn services id status now job s after := by
  obtain ⟨same, -, found, stored, analyses⟩ := following.written known
  cases following with
  | updated found' awaits sameStore sameRequests readable writable =>
    cases known.symm.trans found'
    refine ⟨readable, writable, awaits, ?_, ?_,
      fun key => (kept.analysis? key).trans (analyses key)⟩
    · unfold Store.tryJobWithId?
      rw [kept.owners, kept.tryJobs]
      exact found
    · exact (kept.tryJob? job.key).trans stored

theorem FollowUpCourse.failed_cases
    (course : FollowUpCourse services id status now s (.error cause) after)
    (known : s.store.tryJobWithId? id = some job) :
    (∃ reason, cause = .store (.backend reason)) ∧
      (after.store = s.store ∧ ¬ services.Loses s.store job status ∨
        Torn services id status now job s after) := by
  cases course with
  | ended ending =>
    cases ending with
    | failed following =>
      cases following with
      | unread fault => exact ⟨⟨_, rfl⟩, .inl ⟨rfl, fun lost => nomatch fault.symm.trans lost.1⟩⟩
      | unknown missing => cases missing.symm.trans known
      | unrecorded fault sameStore =>
        exact ⟨⟨_, rfl⟩, .inl ⟨sameStore, fun lost => nomatch fault.symm.trans lost.2.1⟩⟩
  | unread following => exact ⟨⟨_, rfl⟩, .inr (following.torn known (.refl after))⟩
  | unsaved following fault kept => exact ⟨⟨_, rfl⟩, .inr (following.torn known kept)⟩

theorem Torn.retried_of_running (torn : Torn broken id status now job s after)
    (works : mended.StoreWorks) (keyed : after.store.Keyed) (goesOn : status.isEnd = false) :
    Aftermath.of job.key ((followTryJob mended id status now).runOn after) =
      (job.follow now status).aftermath (s.store.analysis? job.key) now := by
  have awaits : (job.follow now status).awaits id = true := by
    rw [TryJob.awaits_iff, TryJob.follow_isTerminal, TryJob.follow_tryJobIds]
    exact ⟨goesOn, (TryJob.awaits_iff.mp torn.awaits).2⟩
  have again := followTryJob_of_awaited works keyed torn.found awaits status now
  rw [TryJob.follow_key, TryJob.follow_follow _ _ goesOn, torn.analysis?] at again
  exact again

theorem Torn.retried_of_end (torn : Torn broken id status now job s after)
    (works : mended.StoreWorks) (ends : status.isEnd = true) :
    (followTryJob mended id status now).runOn after =
      (.ok ⟨.ignored (job.follow now status), none, none⟩, after) := by
  apply followTryJob_of_finished works torn.found
  unfold TryJob.awaits
  rw [TryJob.follow_isTerminal, ends]
  rfl

/-- A call that failed in the store, and is repeated once the store works, leaves behind what one
undisturbed call does, but for a status that is lost. Then the repeated call ignores it. -/
theorem Run.retry_repeats_iff (run : Run admits past s)
    (known : s.store.tryJobWithId? id = some job) (works : mended.StoreWorks)
    (failed : (followTryJob broken id status now).runOn s = (.error cause, after)) :
    let retried := (followTryJob mended id status now).runOn after
    let undisturbed := (followTryJob mended id status now).runOn s
    cause.isRetryable = true ∧
      (Aftermath.of job.key retried = .of job.key undisturbed ↔
        ¬ broken.Loses s.store job status) ∧
      (broken.Loses s.store job status →
        retried = (.ok ⟨.ignored (job.follow now status), none, none⟩, after)) := by
  have sound := run.sound
  have course := followTryJob_course broken sound.toKeyed id status now
  have later := (followTryJob_keepsSound broken id status now).runOn s sound
  dsimp only at course ⊢
  rw [failed] at course later
  obtain ⟨⟨reason, rfl⟩, ⟨same, kept⟩ | torn⟩ := course.failed_cases known
  · refine ⟨rfl, ⟨fun _ => kept, fun _ => ?_⟩, fun lost => absurd lost kept⟩
    exact aftermath_of_sameStore works sound.toKeyed known same
  · rw [followTryJob_of_awaited works sound.toKeyed known torn.awaits]
    cases ends : status.isEnd with
    | true =>
      have left := torn.retried_of_end works ends
      have news := job.aftermath_of_end ends (s.store.analysis? job.key) now
      refine ⟨rfl, ?_, fun _ => left⟩
      rw [left]
      simp only [Aftermath.of, torn.stored, torn.analysis?, Except.map, Services.Loses,
        torn.readable, torn.writable, true_and]
      exact news
    | false =>
      have kept : ¬ broken.Loses s.store job status := by
        rintro ⟨-, -, a, -, news⟩
        cases status <;> first | cases news | cases ends
      refine ⟨rfl, ⟨fun _ => kept, fun _ => ?_⟩, fun lost => absurd lost kept⟩
      exact torn.retried_of_running works later.toKeyed ends

namespace Unsaved

def scheduled : Episode := ⟨.recalling "8000001", .analyze (brokenRequest 0), .initial⟩

theorem run : Run (·.call.isAnalysis = true) [scheduled] scheduled.after := .step .start rfl

def unwritable : Services :=
  { Services.recalling "8000001" with
    storeFault := fun method => if method = .updateAnalysis then some "disk full" else none }

def succeeded : ExternalStatus := .completed .success (some blaming) none

theorem verdict_lost :
    let again := (followTryJob (.recalling "8000001") "8000001" succeeded ⟨60, 0⟩).runOn
    ∃ cause after, (followTryJob unwritable "8000001" succeeded ⟨60, 0⟩).runOn scheduled.after =
        (.error cause, after) ∧ cause.isRetryable = true ∧
      Aftermath.of brokenCompile (again after) ≠ .of brokenCompile (again scheduled.after) := by
  have unanswered : ((followTryJob unwritable "8000001" succeeded ⟨60, 0⟩).runOn
      scheduled.after).1.isOk = false := by decide +kernel
  have known : (scheduled.after.store.tryJobWithId? "8000001").map (·.key) =
      some brokenCompile := by decide +kernel
  have asked : (scheduled.after.store.analysis? brokenCompile).isSome := by decide +kernel
  obtain ⟨job, found, sameKey⟩ := Option.map_eq_some_iff.mp known
  obtain ⟨a, stored⟩ := Option.isSome_iff_exists.mp asked
  have lost : unwritable.Loses scheduled.after.store job succeeded :=
    ⟨rfl, rfl, a, sameKey ▸ stored, rfl⟩
  generalize result : (followTryJob unwritable "8000001" succeeded ⟨60, 0⟩).runOn
    scheduled.after = failed at unanswered
  rcases failed with ⟨cause | _, after⟩
  · obtain ⟨retryable, same, -⟩ :=
      Run.retry_repeats_iff run found (Services.recalling_works "8000001") result
    rw [sameKey] at same
    exact ⟨cause, after, rfl, retryable, fun repeated => same.mp repeated lost⟩
  · cases unanswered

end Unsaved

end CulpritFinding
