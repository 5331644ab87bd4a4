import CulpritFinding.Proofs.Run

namespace CulpritFinding

namespace EngineState

/-- The identifiers that the scheduler gave, earliest first. -/
def acceptedIds (s : EngineState) : List String :=
  s.submissions.filterMap fun submission => submission.answer.toOption

theorem acceptedIds_submitting (s : EngineState) (submission : Submission) :
    (s.submitting submission).acceptedIds =
      s.acceptedIds ++ submission.answer.toOption.toList := by
  unfold acceptedIds submitting
  rw [List.filterMap_append]
  cases answered : submission.answer.toOption <;> simp only [List.filterMap, answered] <;> rfl

theorem SameTryJobs.acceptedIds {before after : EngineState} (same : before.SameTryJobs after) :
    after.acceptedIds = before.acceptedIds := by
  unfold EngineState.acceptedIds
  rw [same.submissions]

end EngineState

namespace Episode

/-- The identifiers that a call brought for the try job under a key. What a failing call was given
is lost. -/
def granted (e : Episode) (key : FailureKey) : List String :=
  if e.call.triggers? = some key ∧ e.answer.isOk then
    e.after.acceptedIds.drop e.before.acceptedIds.length
  else []

def ended? (e : Episode) : Option String :=
  match e.status?, e.update? with
  | some (tryJobId, status), some (.updated _) => if status.isEnd then some tryJobId else none
  | _, _ => none

def Writes (e : Episode) (key : FailureKey) (job : TryJob) : Prop :=
  ∀ k, e.after.store.tryJob? k = if key = k then some job else e.before.store.tryJob? k

/-- A call led the identifiers of a try job to its key, and no others. -/
def Indexes (e : Episode) (key : FailureKey) (job : TryJob) : Prop :=
  ∀ id, e.after.store.tryJobOwners.get? id =
    if id ∈ job.tryJobIds then some key else e.before.store.tryJobOwners.get? id

end Episode

inductive TryJobStep (e : Episode) : Prop
  | idle (jobs : ∀ key, e.after.store.tryJob? key = e.before.store.tryJob? key)
      (accepted : e.after.acceptedIds = e.before.acceptedIds)
      (granted : ∀ key, e.granted key = []) (ended : e.ended? = none)
      (owners : e.after.store.tryJobOwners = e.before.store.tryJobOwners)
  | claimed {key : FailureKey} {now : Instant} {staleAfter : Span} {claim : TryJob}
      (abandoned : e.services.StoreWorks → e.call.isClaim)
      (claimed : e.before.store.claimable? key now staleAfter = some claim)
      (jobs : e.Writes key claim)
      (granted : ∀ key, e.granted key = []) (ended : e.ended? = none)
      (accepted : e.before.acceptedIds <+: e.after.acceptedIds)
      (owners : e.after.store.tryJobOwners = e.before.store.tryJobOwners)
  | accepted {key : FailureKey} {range : TryJobRange} {suspects : List Suspect} {now : Instant}
      {staleAfter : Span} {claim : TryJob} {id : String}
      (claimed : e.before.store.claimable? key now staleAfter = some claim)
      (jobs : e.Writes key ((askedFor e.services claim range suspects).accepted id))
      (accepted : e.after.acceptedIds = e.before.acceptedIds ++ [id])
      (granted : ∀ k, e.granted k = if key = k then [id] else []) (ended : e.ended? = none)
      (owners : e.Indexes key ((askedFor e.services claim range suspects).accepted id))
  | refused {key : FailureKey} {range : TryJobRange} {suspects : List Suspect} {now : Instant}
      {staleAfter : Span} {claim : TryJob} {cause : SchedulerError}
      (claimed : e.before.store.claimable? key now staleAfter = some claim)
      (jobs : e.Writes key ((askedFor e.services claim range suspects).refused cause now))
      (accepted : e.after.acceptedIds = e.before.acceptedIds)
      (granted : ∀ key, e.granted key = []) (ended : e.ended? = none)
      (owners : e.Indexes key ((askedFor e.services claim range suspects).refused cause now))
  | followed {key : FailureKey} {tryJobId : String} {status : ExternalStatus} {now : Instant}
      {job : TryJob} (stored : e.before.store.tryJob? key = some job)
      (awaits : job.awaits tryJobId = true) (jobs : e.Writes key (job.follow now status))
      (accepted : e.after.acceptedIds = e.before.acceptedIds)
      (granted : ∀ key, e.granted key = [])
      (ended : e.ended? = if status.isEnd then some tryJobId else none)
      (owners : e.Indexes key (job.follow now status))

variable {e : Episode} {key : FailureKey} {now : Instant} {s : EngineState}

theorem Episode.granted_of_no_trigger (silent : e.call.triggers? = none) (key : FailureKey) :
    e.granted key = [] := by
  unfold granted
  rw [silent]
  rfl

theorem Episode.granted_of_same (same : e.after.acceptedIds = e.before.acceptedIds)
    (key : FailureKey) : e.granted key = [] := by
  unfold granted
  rw [same, List.drop_length, ite_self]

theorem Episode.ended?_of_no_status (silent : e.status? = none) : e.ended? = none := by
  unfold ended?
  rw [silent]

theorem Store.claimable?_congr {s s' : Store} (same : s'.tryJob? key = s.tryJob? key)
    (now : Instant) (staleAfter : Span) :
    s'.claimable? key now staleAfter = s.claimable? key now staleAfter := by
  unfold claimable?
  rw [same]

theorem TryJobStep.of_idle (same : e.before.SameTryJobs e.after) (ended : e.ended? = none) :
    TryJobStep e :=
  .idle same.tryJob? same.acceptedIds (Episode.granted_of_same same.acceptedIds) ended same.owners

theorem TryJobStep.of_scheduling {range : TryJobRange} {suspects : List Suspect}
    {r : Except AnalysisError TryJob} {middle scheduled : EngineState}
    (keyed : middle.store.Keyed) (triggers : e.call.triggers? = some key)
    (sameAnswer : e.answer.isOk = r.isOk) (ended : e.ended? = none)
    (earlier : e.before.SameTryJobs middle) (later : scheduled.SameTryJobs e.after)
    (scheduling : Scheduling e.services key range suspects now middle r scheduled) :
    TryJobStep e := by
  have claimable : ∀ {staleAfter claim}, middle.store.claimable? key now staleAfter = some claim →
      e.before.store.claimable? key now staleAfter = some claim := by
    intro staleAfter claim claimed
    rw [← claimed]
    exact Store.claimable?_congr (earlier.tryJob? key).symm now staleAfter
  -- The claim is written first, and the record of the answer over it.
  have writes : ∀ {claim job : TryJob}, claim.key = key → job.key = key →
      scheduled.store.tryJobs = ((middle.store.withClaim claim).withTryJob job).tryJobs →
      e.Writes key job := by
    intro claim job sameClaim sameJob written k
    rw [later.tryJob?, ← earlier.tryJob?]
    unfold Store.tryJob?
    rw [written]
    change ((middle.store.withClaim claim).withTryJob job).tryJob? k = _
    rw [Store.tryJob?_withTryJob, Store.tryJob?_withClaim, sameClaim, sameJob]
    split <;> rfl
  have indexes : ∀ {claim job : TryJob}, job.key = key →
      scheduled.store.tryJobOwners =
        ((middle.store.withClaim claim).withTryJob job).tryJobOwners →
      e.Indexes key job := by
    intro claim job sameJob written id
    rw [later.owners, ← earlier.owners, written, Store.tryJobOwners_withTryJob, sameJob]
    rfl
  cases scheduling with
  | outOfRange => exact .of_idle (earlier.trans later) ended
  | unclaimed => exact .of_idle (earlier.trans later) ended
  | inFlight => exact .of_idle (earlier.trans later) ended
  | unrecorded fault timeout claimed =>
    have sameKey := Store.claimable?_key keyed claimed
    refine .claimed (fun works => ?_) (claimable claimed) (fun k => ?_) (fun k => ?_) ended ?_
      (later.owners.trans earlier.owners)
    · cases (works _).symm.trans fault
    · rw [later.tryJob?, ← earlier.tryJob?, ← sameKey]
      exact Store.tryJob?_withClaim ..
    · unfold Episode.granted
      rw [sameAnswer]
      exact if_neg fun granted => Bool.false_ne_true granted.2
    · rw [later.acceptedIds, EngineState.acceptedIds_submitting, ← earlier.acceptedIds]
      exact List.prefix_append ..
  | accepted timeout claimed answered =>
    have sameKey := Store.claimable?_key keyed claimed
    have gave := later.acceptedIds.trans (EngineState.acceptedIds_submitting ..)
    rw [show (middle.claiming _).acceptedIds = _ from earlier.acceptedIds] at gave
    refine .accepted (claimable claimed) (writes sameKey sameKey rfl) gave (fun k => ?_) ended
      (indexes sameKey rfl)
    unfold Episode.granted
    rw [triggers, sameAnswer, gave, List.drop_left]
    simp only [Option.some.injEq, Except.isOk, Except.toBool, and_true]
    rfl
  | refused timeout claimed answered =>
    have sameKey := Store.claimable?_key keyed claimed
    have gave : e.after.acceptedIds = e.before.acceptedIds := by
      rw [later.acceptedIds, ← earlier.acceptedIds]
      exact (EngineState.acceptedIds_submitting ..).trans (List.append_nil _)
    exact .refused (claimable claimed) (writes sameKey sameKey rfl) gave
      (Episode.granted_of_same gave) ended (indexes sameKey rfl)

theorem TryJobStep.of_following {tryJobId : String} {status : ExternalStatus}
    {r : Except AnalysisError TryJobUpdate} {followed : EngineState}
    (keyed : e.before.store.Keyed) (silent : e.call.triggers? = none)
    (told : e.status? = some (tryJobId, status)) (sameUpdate : e.update? = r.toOption)
    (later : followed.SameTryJobs e.after)
    (following : Following e.services tryJobId status now e.before r followed) :
    TryJobStep e := by
  have granted := Episode.granted_of_no_trigger silent
  have unended : (∀ job, r ≠ .ok (.updated job)) → e.ended? = none := by
    intro unmoved
    unfold Episode.ended?
    rw [told, sameUpdate]
    rcases r with _ | _ | job
    · rfl
    · exact absurd rfl (unmoved _)
    · rfl
  cases following with
  | unread => exact .of_idle later (unended fun job same => by cases same)
  | unknown => exact .of_idle later (unended fun job same => by cases same)
  | ignored => exact .of_idle later (unended fun job same => by cases same)
  | unrecorded fault sameStore sameRequests =>
    refine .of_idle ⟨?_, ?_, ?_⟩ (unended fun job same => by cases same)
    · rw [later.tryJobs, sameStore]
    · rw [later.owners, sameStore]
    · rw [later.submissions, sameRequests]
  | @updated job measured found awaits sameStore sameRequests =>
    obtain ⟨key, -, stored⟩ := Store.tryJobWithId?_eq_some.mp found
    have jobs : e.Writes key (job.follow now status) := by
      intro k
      rw [later.tryJob?, ← keyed.tryJob stored, ← TryJob.follow_key job now status, ← sameStore]
      exact Store.tryJob?_withTryJob ..
    have gave : e.after.acceptedIds = e.before.acceptedIds := by
      rw [later.acceptedIds]
      exact congrArg (List.filterMap _) sameRequests
    have owners : e.Indexes key (job.follow now status) := by
      intro id
      rw [later.owners, ← keyed.tryJob stored, ← TryJob.follow_key job now status, ← sameStore]
      exact Store.tryJobOwners_withTryJob ..
    refine .followed stored awaits jobs gave granted ?_ owners
    unfold Episode.ended?
    rw [told, sameUpdate]
    rfl

/-- Whatever an analysis saves, it touches the try jobs by scheduling one. -/
theorem TryJobStep.of_ending {request : AnalysisRequest} {after : EngineState}
    {r : Except AnalysisError AnalysisOutcome} (keyed : e.before.store.Keyed)
    (triggers : e.call.triggers? = some request.key) (sameAnswer : e.answer.isOk = r.isOk)
    (ended : e.ended? = none) (same : e.after = after)
    (ending : AnalysisEnding e.services request e.before r after) : TryJobStep e := by
  subst same
  cases ending.writes with
  | saved key saved => exact .of_idle saved.toSameTryJobs ended
  | scheduled key saved scheduling answered sameKey written =>
    exact .of_scheduling (saved.keyed keyed) triggers (sameAnswer.trans answered) ended
      saved.toSameTryJobs (written ▸ (EngineState.saves_withAnalysis ..).toSameTryJobs) scheduling

theorem Course.tryJobStep (course : Course e) (keyed : e.before.store.Keyed) : TryJobStep e := by
  cases course with
  | @scheduling _ _ _ _ r call answer scheduling =>
    have ended : e.ended? = none := by
      apply Episode.ended?_of_no_status
      unfold Episode.status?
      rw [call]
    refine .of_scheduling keyed (call ▸ rfl) ?_ ended (.refl _) (.refl _) scheduling
    rw [answer]
    cases r <;> rfl
  | @following tryJobId status _ r call answer following =>
    have told : e.status? = some (tryJobId, status) := by
      unfold Episode.status?
      rw [call]
    have sameUpdate : e.update? = r.toOption := by
      unfold Episode.update?
      rw [answer]
      cases r <;> rfl
    exact .of_following keyed (call ▸ rfl) told sameUpdate (.refl _) following
  | @claimed key now staleAfter claim call claimed after =>
    have ended : e.ended? = none := by
      apply Episode.ended?_of_no_status
      unfold Episode.status?
      rw [call]
    have jobs : e.Writes key claim := by
      intro k
      rw [after, ← Store.claimable?_key keyed claimed]
      exact Store.tryJob?_withClaim ..
    refine .claimed (fun _ => call ▸ rfl) claimed jobs (Episode.granted_of_no_trigger (call ▸ rfl))
      ended ?_ ?_
    · rw [after]
      exact List.prefix_rfl
    · rw [after]
      rfl
  | unclaimed call after =>
    refine .of_idle (after ▸ .refl _) (Episode.ended?_of_no_status ?_)
    unfold Episode.status?
    rw [call]
  | @ending request r call answer ending =>
    have triggers : e.call.triggers? = some request.key := by
      rw [call]
      rfl
    have ended : e.ended? = none := by
      apply Episode.ended?_of_no_status
      unfold Episode.status?
      rw [call]
    have sameAnswer : e.answer.isOk = r.isOk := by
      rw [answer]
      cases r <;> rfl
    exact .of_ending keyed triggers sameAnswer ended rfl ending
  | @followUp _ _ _ r call told answer ending =>
    have sameUpdate : e.update? = r.toOption.map (·.update) := by
      unfold Episode.update?
      rw [answer]
      cases r <;> rfl
    obtain ⟨update, followed, following, sameJobs, told'⟩ := ending.following
    exact .of_following keyed call told (sameUpdate.trans told') sameJobs following
  | unanswered call silent answer after =>
    exact .of_idle (after ▸ .refl _) (Episode.ended?_of_no_status silent)

theorem Episode.Writes.cases {job found : TryJob} {k : FailureKey} (jobs : e.Writes key job)
    (stored : e.after.store.tryJob? k = some found) :
    (key = k ∧ found = job) ∨ (key ≠ k ∧ e.before.store.tryJob? k = some found) := by
  rw [jobs] at stored
  split at stored
  · rename_i same
    exact .inl ⟨same, (Option.some.inj stored).symm⟩
  · rename_i other
    exact .inr ⟨other, stored⟩

theorem Episode.Writes.absent {job : TryJob} {k : FailureKey} (jobs : e.Writes key job)
    (missing : e.after.store.tryJob? k = none) :
    key ≠ k ∧ e.before.store.tryJob? k = none := by
  rw [jobs] at missing
  split at missing
  · cases missing
  · rename_i other
    exact ⟨other, missing⟩

end CulpritFinding
