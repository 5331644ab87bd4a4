import CulpritFinding.Proofs.TryJob.Scheduling

namespace CulpritFinding

def ExternalStatus.isEnd : ExternalStatus → Bool
  | .completed _ _ _ => true
  | _ => false

namespace TryJob

theorem follow_kept (j : TryJob) (now : Instant) (status : ExternalStatus) :
    (j.follow now status).key = j.key ∧ (j.follow now status).tryJobIds = j.tryJobIds ∧
      (j.follow now status).attempt = j.attempt := by
  cases status with
  | scheduled => exact ⟨rfl, rfl, rfl⟩
  | started => exact ⟨rfl, rfl, rfl⟩
  | completed result => cases result <;> exact ⟨rfl, rfl, rfl⟩

theorem follow_key (j : TryJob) (now : Instant) (status : ExternalStatus) :
    (j.follow now status).key = j.key := (j.follow_kept now status).1

theorem follow_tryJobIds (j : TryJob) (now : Instant) (status : ExternalStatus) :
    (j.follow now status).tryJobIds = j.tryJobIds := (j.follow_kept now status).2.1

theorem follow_attempt (j : TryJob) (now : Instant) (status : ExternalStatus) :
    (j.follow now status).attempt = j.attempt := (j.follow_kept now status).2.2

theorem follow_reports (j : TryJob) (now : Instant) (status : ExternalStatus) :
    (j.follow now status).reports =
      j.reports ++ match status with
        | .completed _ report _ => report.toList
        | _ => [] := by
  cases status with
  | scheduled => exact (List.append_nil _).symm
  | started => exact (List.append_nil _).symm
  | completed result => cases result <;> rfl

theorem follow_isTerminal (j : TryJob) (now : Instant) (status : ExternalStatus) :
    (j.follow now status).status.isTerminal = status.isEnd := by
  cases status with
  | scheduled => rfl
  | started => rfl
  | completed result => cases result <;> rfl

theorem awaits_iff {j : TryJob} {tryJobId : String} :
    j.awaits tryJobId = true ↔
      j.status.isTerminal = false ∧ j.tryJobIds.getLast? = some tryJobId := by
  unfold awaits
  simp only [Bool.and_eq_true, Bool.not_eq_true', decide_eq_true_eq]

end TryJob

variable {services : Services} {s s' : EngineState} {tryJobId : String} {status : ExternalStatus}
  {now : Instant}

inductive Following (services : Services) (tryJobId : String) (status : ExternalStatus)
    (now : Instant) (s : EngineState) : Except AnalysisError TryJobUpdate → EngineState → Prop
  | unread {reason : String} (fault : services.storeFault .findTryJobById = some reason) :
      Following services tryJobId status now s (.error (.store (.backend reason))) s
  | unknown (missing : s.store.tryJobWithId? tryJobId = none) :
      Following services tryJobId status now s (.error (.unknownTryJob tryJobId)) s
  | ignored {job : TryJob} (found : s.store.tryJobWithId? tryJobId = some job)
      (finished : job.awaits tryJobId = false) :
      Following services tryJobId status now s (.ok (.ignored job)) s
  | unrecorded {reason : String} {measured : EngineState}
      (fault : services.storeFault .updateTryJob = some reason)
      (sameStore : measured.store = s.store) (sameRequests : measured.submissions = s.submissions) :
      Following services tryJobId status now s (.error (.store (.backend reason))) measured
  | updated {job : TryJob} {measured : EngineState}
      (found : s.store.tryJobWithId? tryJobId = some job) (awaits : job.awaits tryJobId = true)
      (sameStore : measured.store = s.store) (sameRequests : measured.submissions = s.submissions)
      (readable : services.storeFault .findTryJobById = none)
      (writable : services.storeFault .updateTryJob = none) :
      Following services tryJobId status now s (.ok (.updated (job.follow now status)))
        (measured.withTryJob (job.follow now status))

/-- What is measured before the record is written does not depend on the fate of the write. -/
theorem recordFollowed_runOn (keyed : s.store.Keyed)
    (readable : services.storeFault .findTryJobById = none) {job : TryJob}
    (found : s.store.tryJobWithId? tryJobId = some job) (awaits : job.awaits tryJobId = true)
    {measured : EngineState} (sameStore : measured.store = s.store)
    (sameRequests : measured.submissions = s.submissions) :
    let run := Engine.runOn (do
      Engine.updateTryJob services (job.follow now status)
      Engine.record (.tryJobStatusChanged (job.follow now status).status.text)
      return .updated (job.follow now status)) measured
    Following services tryJobId status now s run.1 run.2 := by
  cases fault : services.storeFault .updateTryJob with
  | some reason =>
    rw [Engine.runOn_bind_error _ (Engine.runOn_updateTryJob_fault fault ..)]
    exact .unrecorded fault sameStore sameRequests
  | none =>
    have present : (measured.store.tryJob? (job.follow now status).key).isSome := by
      obtain ⟨key, -, stored⟩ := Store.tryJobWithId?_eq_some.mp found
      rw [sameStore, TryJob.follow_key, keyed.tryJob stored, stored]
      rfl
    rw [Engine.runOn_recordTryJob fault _ present]
    exact .updated found awaits sameStore sameRequests readable fault

theorem updateTryJob_runOn (services : Services) (keyed : s.store.Keyed) (tryJobId : String)
    (status : ExternalStatus) (now : Instant) :
    let run := (updateTryJob services tryJobId status now).runOn s
    Following services tryJobId status now s run.1 run.2 := by
  unfold updateTryJob Engine.tryJobWithId?
  cases unreadable : services.storeFault .findTryJobById with
  | some reason =>
    rw [Engine.runOn_bind_error _ (Engine.runOn_read_fault unreadable ..)]
    exact .unread unreadable
  | none =>
    rw [Engine.runOn_bind_ok _ (Engine.runOn_read unreadable ..)]
    cases found : s.store.tryJobWithId? tryJobId with
    | none => exact .unknown found
    | some job =>
      cases awaits : job.awaits tryJobId with
      | false =>
        simp only [awaits, Bool.not_false, if_true]
        exact .ignored found awaits
      | true =>
        simp only [awaits, Bool.not_true, Bool.false_eq_true, if_false]
        cases status with
        | completed result report endTime =>
          dsimp only
          rw [Engine.runOn_bind_ok _ (Engine.runOn_record ..)]
          apply recordFollowed_runOn keyed unreadable found awaits <;> rfl
        | scheduled => apply recordFollowed_runOn keyed unreadable found awaits <;> rfl
        | started startTime => apply recordFollowed_runOn keyed unreadable found awaits <;> rfl

theorem Following.keyed {r : Except AnalysisError TryJobUpdate}
    (following : Following services tryJobId status now s r s') (keyed : s.store.Keyed) :
    s'.store.Keyed := by
  cases following with
  | unrecorded fault sameStore => exact sameStore ▸ keyed
  | updated found awaits sameStore =>
    have keyed := sameStore ▸ keyed
    exact keyed.withTryJob _
  | _ => exact keyed

theorem Following.sameAnalyses {r : Except AnalysisError TryJobUpdate}
    (following : Following services tryJobId status now s r s') :
    s'.store.analyses = s.store.analyses := by
  cases following with
  | unrecorded fault sameStore => rw [sameStore]
  | updated found awaits sameStore => exact (congrArg Store.analyses sameStore :)
  | _ => rfl

theorem Following.sameGroups {r : Except AnalysisError TryJobUpdate}
    (following : Following services tryJobId status now s r s') :
    s'.store.groups = s.store.groups := by
  cases following with
  | unrecorded fault sameStore => rw [sameStore]
  | updated found awaits sameStore => exact (congrArg Store.groups sameStore :)
  | _ => rfl

theorem Following.moved (keyed : s.store.Keyed) {job : TryJob}
    (following : Following services tryJobId status now s (.ok (.updated job)) s') :
    ∃ former, s.store.tryJob? job.key = some former ∧ former.status.isTerminal = false ∧
      job = former.follow now status ∧
      ∀ key, s'.store.tryJob? key = if job.key = key then some job else s.store.tryJob? key := by
  cases following with
  | @updated former measured found awaits sameStore =>
    obtain ⟨key, -, stored⟩ := Store.tryJobWithId?_eq_some.mp found
    refine ⟨former, ?_, ?_, rfl, fun k => ?_⟩
    · rw [TryJob.follow_key, keyed.tryJob stored]
      exact stored
    · exact (TryJob.awaits_iff.mp awaits).1
    · rw [← sameStore]
      exact Store.tryJob?_withTryJob ..

end CulpritFinding
