import CulpritFinding.Bisection
import CulpritFinding.Proofs.Engine
import CulpritFinding.Proofs.TryJob.Records

namespace CulpritFinding

namespace TryJob

def asked (j : TryJob) (range : TryJobRange) (revisions : List String) : TryJob :=
  { j with suspectedRevisions := revisions, range := some range }

def accepted (j : TryJob) (tryJobId : String) : TryJob :=
  { j with tryJobIds := j.tryJobIds ++ [tryJobId] }

def refused (j : TryJob) (e : SchedulerError) (now : Instant) : TryJob :=
  { j with status := .error, error := some e.message, completedAt := some now }

end TryJob

namespace EngineState

def withTryJob (s : EngineState) (job : TryJob) : EngineState :=
  { s with store := s.store.withTryJob job }.counting (.tryJobStatusChanged job.status.text)

def submitting (s : EngineState) (submission : Submission) : EngineState :=
  { s with submissions := s.submissions ++ [submission] }

def claiming (s : EngineState) (claim : TryJob) : EngineState :=
  { s with store := s.store.withClaim claim }

end EngineState

variable {services : Services} {s : EngineState}

def requestFor (services : Services) (key : FailureKey) (range : TryJobRange)
    (suspects : List Suspect) : TryJobRequest :=
  .of services.config key range
    ((suspects.take services.config.maxSuspectsForTryJob).map (·.revision))

def askedFor (services : Services) (job : TryJob) (range : TryJobRange)
    (suspects : List Suspect) : TryJob :=
  job.asked range ((suspects.take services.config.maxSuspectsForTryJob).map (·.revision))

/-- The claim timeout is too long, or the try job to be claimed has had too many attempts. -/
def CannotClaim (services : Services) (s : Store) (key : FailureKey) (now : Instant) : Prop :=
  services.config.claimTimeout? = none ∨
    ∃ staleAfter ∈ services.config.claimTimeout?, s.SpentAt key now staleAfter

inductive Scheduling (services : Services) (key : FailureKey) (range : TryJobRange)
    (suspects : List Suspect) (now : Instant) (s : EngineState) :
    Except AnalysisError TryJob → EngineState → Prop
  | outOfRange (blocked : CannotClaim services s.store key now) :
      Scheduling services key range suspects now s (.error .outOfRange) s
  | unclaimed {reason : String} (fault : services.storeFault .claimTryJob = some reason) :
      Scheduling services key range suspects now s (.error (.store (.backend reason))) s
  | inFlight {staleAfter : Span} {job : TryJob}
      (timeout : services.config.claimTimeout? = some staleAfter)
      (stored : s.store.tryJob? key = some job)
      (held : job.isClaimable now staleAfter = false) :
      Scheduling services key range suspects now s (.ok job) s
  | unrecorded {reason : String} {staleAfter : Span} {claim : TryJob}
      {answer : Except SchedulerError String}
      (fault : services.storeFault .updateTryJob = some reason)
      (timeout : services.config.claimTimeout? = some staleAfter)
      (claimed : s.store.claimable? key now staleAfter = some claim)
      (answered : services.scheduler.trigger (requestFor services key range suspects) = answer) :
      Scheduling services key range suspects now s (.error (.store (.backend reason)))
        ((s.claiming claim).submitting ⟨requestFor services key range suspects, answer⟩)
  | accepted {staleAfter : Span} {claim : TryJob} {id : String}
      (timeout : services.config.claimTimeout? = some staleAfter)
      (claimed : s.store.claimable? key now staleAfter = some claim)
      (answered : services.scheduler.trigger (requestFor services key range suspects) = .ok id) :
      Scheduling services key range suspects now s
        (.ok ((askedFor services claim range suspects).accepted id))
        (((s.claiming claim).submitting
            ⟨requestFor services key range suspects, .ok id⟩).withTryJob
          ((askedFor services claim range suspects).accepted id))
  | refused {staleAfter : Span} {claim : TryJob} {e : SchedulerError}
      (timeout : services.config.claimTimeout? = some staleAfter)
      (claimed : s.store.claimable? key now staleAfter = some claim)
      (answered : services.scheduler.trigger (requestFor services key range suspects) = .error e) :
      Scheduling services key range suspects now s (.error (.tryJobScheduling key.text e))
        (((s.claiming claim).submitting
            ⟨requestFor services key range suspects, .error e⟩).withTryJob
          ((askedFor services claim range suspects).refused e now))

namespace Engine

theorem runOn_updateTryJob (works : services.storeFault .updateTryJob = none) (job : TryJob)
    (present : (s.store.tryJob? job.key).isSome) :
    (updateTryJob services job).runOn s = (.ok (), { s with store := s.store.withTryJob job }) := by
  unfold updateTryJob
  rw [runOn_write works, Store.updateTryJob_of_present present]

theorem runOn_updateTryJob_fault {reason : String}
    (fault : services.storeFault .updateTryJob = some reason) (job : TryJob) (s : EngineState) :
    (updateTryJob services job).runOn s = (.error (.store (.backend reason)), s) := by
  unfold updateTryJob
  exact runOn_write_fault fault ..

theorem runOn_claimTryJob (works : services.storeFault .claimTryJob = none) (key : FailureKey)
    (now : Instant) (staleAfter : Span) (s : EngineState) :
    (claimTryJob services key now staleAfter).runOn s =
      match s.store.claimTryJob key now staleAfter with
      | (some claim, store) => (.ok claim, { s with store })
      | (none, store) => (.error .outOfRange, { s with store }) := by
  have accessed := runOn_access works
    (fun s => .ok (s.claimTryJob key now staleAfter)) s
  unfold Engine.claimTryJob
  generalize s.store.claimTryJob key now staleAfter = result at accessed ⊢
  obtain ⟨claim, store⟩ := result
  rw [runOn_bind_ok _ accessed]
  cases claim <;> rfl

theorem runOn_claimTryJob_fault {reason : String}
    (fault : services.storeFault .claimTryJob = some reason) (key : FailureKey) (now : Instant)
    (staleAfter : Span) (s : EngineState) :
    (claimTryJob services key now staleAfter).runOn s = (.error (.store (.backend reason)), s) :=
  runOn_bind_error _ (runOn_access_fault fault ..)

theorem runOn_claimTryJob_cases (services : Services) (keyed : s.store.Keyed) (key : FailureKey)
    (now : Instant) (staleAfter : Span) :
    (∃ claim answer, s.store.claimable? key now staleAfter = some claim ∧
      (claimTryJob services key now staleAfter).runOn s = (.ok answer, s.claiming claim)) ∨
      ((claimTryJob services key now staleAfter).runOn s).2 = s := by
  cases fault : services.storeFault .claimTryJob with
  | some reason =>
    rw [runOn_claimTryJob_fault fault]
    exact .inr rfl
  | none =>
    rw [runOn_claimTryJob fault]
    rcases s.store.claimable_or_held key now staleAfter with
      ⟨claim, claimed⟩ | ⟨job, stored, held⟩ | spent
    · rw [Store.claimTryJob_of_claimable keyed claimed]
      exact .inl ⟨claim, _, claimed, rfl⟩
    · rw [Store.claimTryJob_of_held stored held]
      exact .inr rfl
    · rw [Store.claimTryJob_of_spent spent]
      exact .inr rfl

theorem claimTryJob_writes (services : Services) (key : FailureKey) (now : Instant)
    (staleAfter : Span) (s : EngineState) :
    ∃ tryJobs, ((claimTryJob services key now staleAfter).runOn s).2 =
      { s with store := { s.store with tryJobs } } := by
  cases fault : services.storeFault .claimTryJob with
  | some reason =>
    rw [runOn_claimTryJob_fault fault]
    exact ⟨s.store.tryJobs, rfl⟩
  | none =>
    obtain ⟨tryJobs, frame⟩ := s.store.claimTryJob_frame key now staleAfter
    refine ⟨tryJobs, ?_⟩
    rw [runOn_claimTryJob fault, ← frame]
    rcases s.store.claimTryJob key now staleAfter with ⟨_ | _, _⟩ <;> rfl

theorem runOn_recordTryJob {α : Type} (works : services.storeFault .updateTryJob = none)
    (job : TryJob) (present : (s.store.tryJob? job.key).isSome) (next : Engine α) :
    (do updateTryJob services job
        record (.tryJobStatusChanged job.status.text)
        next).runOn s = next.runOn (s.withTryJob job) := by
  rw [runOn_bind_ok _ (runOn_updateTryJob works job present), runOn_bind_ok _ (runOn_record ..)]
  rfl

end Engine

theorem triggerTryJob_unrecorded {job : TryJob} {range : TryJobRange} {suspects : List Suspect}
    {reason : String} {answer : Except SchedulerError String}
    (fault : services.storeFault .updateTryJob = some reason)
    (answered : services.scheduler.trigger (requestFor services job.key range suspects) = answer)
    (now : Instant) :
    (triggerTryJob services job range suspects now).runOn s =
      (.error (.store (.backend reason)),
        s.submitting ⟨requestFor services job.key range suspects, answer⟩) := by
  unfold triggerTryJob
  rw [Engine.runOn_bind_ok _ (Engine.runOn_submit ..), ← requestFor, answered]
  cases answer <;> exact Engine.runOn_bind_error _ (Engine.runOn_updateTryJob_fault fault ..)

theorem triggerTryJob_accepted {job : TryJob} {range : TryJobRange} {suspects : List Suspect}
    {id : String} (works : services.storeFault .updateTryJob = none)
    (present : (s.store.tryJob? job.key).isSome)
    (answered : services.scheduler.trigger (requestFor services job.key range suspects) = .ok id)
    (now : Instant) :
    (triggerTryJob services job range suspects now).runOn s =
      (.ok ((askedFor services job range suspects).accepted id),
        (s.submitting ⟨requestFor services job.key range suspects, .ok id⟩).withTryJob
          ((askedFor services job range suspects).accepted id)) := by
  unfold triggerTryJob
  rw [Engine.runOn_bind_ok _ (Engine.runOn_submit ..), ← requestFor, answered]
  exact Engine.runOn_recordTryJob (s := s.submitting _) works
    ((askedFor services job range suspects).accepted id) present _

theorem triggerTryJob_refused {job : TryJob} {range : TryJobRange} {suspects : List Suspect}
    {e : SchedulerError} (works : services.storeFault .updateTryJob = none)
    (present : (s.store.tryJob? job.key).isSome)
    (answered : services.scheduler.trigger (requestFor services job.key range suspects) = .error e)
    (now : Instant) :
    (triggerTryJob services job range suspects now).runOn s =
      (.error (.tryJobScheduling job.key.text e),
        (s.submitting ⟨requestFor services job.key range suspects, .error e⟩).withTryJob
          ((askedFor services job range suspects).refused e now)) := by
  unfold triggerTryJob
  rw [Engine.runOn_bind_ok _ (Engine.runOn_submit ..), ← requestFor, answered]
  exact Engine.runOn_recordTryJob (s := s.submitting _) works
    ((askedFor services job range suspects).refused e now) present _

theorem triggerTryJob_runOn (keyed : s.store.Keyed) {key : FailureKey} {now : Instant}
    {staleAfter : Span} {claim : TryJob}
    (timeout : services.config.claimTimeout? = some staleAfter)
    (claimed : s.store.claimable? key now staleAfter = some claim)
    (range : TryJobRange) (suspects : List Suspect) :
    let run := (triggerTryJob services claim range suspects now).runOn (s.claiming claim)
    Scheduling services key range suspects now s run.1 run.2 := by
  have sameKey := Store.claimable?_key keyed claimed
  have present : ((s.claiming claim).store.tryJob? claim.key).isSome := by
    change ((s.store.withClaim claim).tryJob? claim.key).isSome
    simp only [Store.tryJob?_withClaim, if_true, Option.isSome_some]
  subst key
  cases fault : services.storeFault .updateTryJob with
  | some reason =>
    rw [triggerTryJob_unrecorded fault rfl]
    exact .unrecorded fault timeout claimed rfl
  | none =>
    cases answered : services.scheduler.trigger (requestFor services claim.key range suspects) with
    | ok id =>
      rw [triggerTryJob_accepted fault present answered]
      exact .accepted timeout claimed answered
    | error e =>
      rw [triggerTryJob_refused fault present answered]
      exact .refused timeout claimed answered

theorem scheduleTryJob_runOn (services : Services) (keyed : s.store.Keyed) (key : FailureKey)
    (range : TryJobRange) (suspects : List Suspect) (now : Instant) :
    let run := (scheduleTryJob services key range suspects now).runOn s
    Scheduling services key range suspects now s run.1 run.2 := by
  unfold scheduleTryJob
  cases timeout : services.config.claimTimeout? with
  | none => exact .outOfRange (.inl timeout)
  | some staleAfter =>
    dsimp only
    cases fault : services.storeFault .claimTryJob with
    | some reason =>
      rw [Engine.runOn_bind_error _ (Engine.runOn_claimTryJob_fault fault ..)]
      exact .unclaimed fault
    | none =>
      have claiming := Engine.runOn_claimTryJob fault key now staleAfter s
      rcases s.store.claimable_or_held key now staleAfter with
        ⟨claim, claimed⟩ | ⟨job, stored, held⟩ | spent
      · rw [Store.claimTryJob_of_claimable keyed claimed] at claiming
        rw [Engine.runOn_bind_ok _ claiming]
        have triggered := triggerTryJob_runOn keyed timeout claimed range suspects
        cases former : (s.store.tryJob? key).isSome <;> exact triggered
      · rw [Store.claimTryJob_of_held stored held] at claiming
        rw [Engine.runOn_bind_ok _ claiming]
        exact .inFlight timeout stored held
      · rw [Store.claimTryJob_of_spent spent] at claiming
        rw [Engine.runOn_bind_error _ claiming]
        exact .outOfRange (.inr ⟨staleAfter, timeout, spent⟩)

theorem scheduleTryJob_of_held {key : FailureKey} {job : TryJob} {now : Instant}
    {staleAfter : Span} (works : services.storeFault .claimTryJob = none)
    (timeout : services.config.claimTimeout? = some staleAfter)
    (stored : s.store.tryJob? key = some job) (held : job.isClaimable now staleAfter = false)
    (range : TryJobRange) (suspects : List Suspect) :
    (scheduleTryJob services key range suspects now).runOn s = (.ok job, s) := by
  have claiming := Engine.runOn_claimTryJob works key now staleAfter s
  rw [Store.claimTryJob_of_held stored held] at claiming
  unfold scheduleTryJob
  rw [timeout]
  dsimp only
  rw [Engine.runOn_bind_ok _ claiming]
  rfl

theorem scheduleTryJob_of_spent {key : FailureKey} {now : Instant} {staleAfter : Span}
    (works : services.storeFault .claimTryJob = none)
    (timeout : services.config.claimTimeout? = some staleAfter)
    (spent : s.store.SpentAt key now staleAfter) (range : TryJobRange) (suspects : List Suspect) :
    (scheduleTryJob services key range suspects now).runOn s = (.error .outOfRange, s) := by
  have claiming := Engine.runOn_claimTryJob works key now staleAfter s
  rw [Store.claimTryJob_of_spent spent] at claiming
  unfold scheduleTryJob
  rw [timeout]
  dsimp only
  rw [Engine.runOn_bind_error _ claiming]

theorem triggerTryJob_submissions (services : Services) (job : TryJob) (range : TryJobRange)
    (suspects : List Suspect) (now : Instant) (s : EngineState) :
    ((triggerTryJob services job range suspects now).runOn s).2.submissions =
      s.submissions ++ [⟨requestFor services job.key range suspects,
        services.scheduler.trigger (requestFor services job.key range suspects)⟩] := by
  unfold triggerTryJob
  rw [Engine.runOn_bind_ok _ (Engine.runOn_submit ..), ← requestFor]
  dsimp only
  cases services.scheduler.trigger (requestFor services job.key range suspects) with
  | ok id =>
    exact ((Engine.silent_write ..).bind fun _ => (Engine.silent_record _).bind fun _ =>
      Engine.silent_pure _).submissions _
  | error e =>
    exact ((Engine.silent_write ..).bind fun _ => (Engine.silent_record _).bind fun _ =>
      Engine.silent_throw _).submissions _

/-- Where a claim succeeds the scheduler is asked, once, for the try job that was claimed. -/
theorem scheduleTryJob_of_claimable {key : FailureKey} {now : Instant} {staleAfter : Span}
    {claim : TryJob} (works : services.storeFault .claimTryJob = none)
    (timeout : services.config.claimTimeout? = some staleAfter)
    (claimed : s.store.claimable? key now staleAfter = some claim) (range : TryJobRange)
    (suspects : List Suspect) :
    ((scheduleTryJob services key range suspects now).runOn s).2.submissions =
      s.submissions ++ [⟨requestFor services claim.key range suspects,
        services.scheduler.trigger (requestFor services claim.key range suspects)⟩] := by
  have claiming := Engine.runOn_claimTryJob works key now staleAfter s
  have answered := Store.claimTryJob_claim claimed
  generalize s.store.claimTryJob key now staleAfter = result at claiming answered
  obtain ⟨claimed?, store⟩ := result
  subst answered
  unfold scheduleTryJob
  rw [timeout]
  dsimp only at claiming ⊢
  rw [Engine.runOn_bind_ok _ claiming]
  cases (s.store.tryJob? key).isSome <;> exact triggerTryJob_submissions ..

theorem scheduleTryJob_submissions (keyed : s.store.Keyed) {key : FailureKey} {now : Instant}
    {staleAfter : Span} {claim : TryJob} (works : services.storeFault .claimTryJob = none)
    (timeout : services.config.claimTimeout? = some staleAfter)
    (claimed : s.store.claimable? key now staleAfter = some claim) (range : TryJobRange)
    (suspects : List Suspect) :
    ((scheduleTryJob services key range suspects now).runOn s).2.submissions =
      s.submissions ++ [⟨requestFor services key range suspects,
        services.scheduler.trigger (requestFor services key range suspects)⟩] := by
  have sameKey := Store.claimable?_key keyed claimed
  rw [scheduleTryJob_of_claimable works timeout claimed, sameKey]

theorem Scheduling.keyed {s' : EngineState} {key : FailureKey} {range : TryJobRange}
    {suspects : List Suspect} {now : Instant} {r : Except AnalysisError TryJob}
    (scheduling : Scheduling services key range suspects now s r s') (keyed : s.store.Keyed) :
    s'.store.Keyed := by
  cases scheduling with
  | unrecorded => exact keyed.withClaim _
  | accepted => exact (keyed.withClaim _).withTryJob _
  | refused => exact (keyed.withClaim _).withTryJob _
  | _ => exact keyed

section

variable {s' : EngineState} {key : FailureKey} {range : TryJobRange} {suspects : List Suspect}
  {now : Instant}

theorem tryJob?_after_claim (s : EngineState) {claim job : TryJob} (submission : Submission)
    (sameClaim : claim.key = key) (sameJob : job.key = key) (k : FailureKey) :
    (((s.claiming claim).submitting submission).withTryJob job).store.tryJob? k =
      if key = k then some job else s.store.tryJob? k := by
  rw [← sameJob]
  refine (Store.tryJob?_withTryJob ..).trans ?_
  split
  · rfl
  · refine (Store.tryJob?_withClaim ..).trans (if_neg ?_)
    rw [sameClaim, ← sameJob]
    assumption

theorem Scheduling.others {r : Except AnalysisError TryJob}
    (scheduling : Scheduling services key range suspects now s r s') (keyed : s.store.Keyed)
    {k : FailureKey} (other : key ≠ k) : s'.store.tryJob? k = s.store.tryJob? k := by
  cases scheduling with
  | outOfRange => rfl
  | unclaimed => rfl
  | inFlight => rfl
  | unrecorded fault timeout claimed =>
    have sameKey := Store.claimable?_key keyed claimed
    exact (Store.tryJob?_withClaim ..).trans (if_neg (sameKey ▸ other))
  | accepted timeout claimed =>
    have sameKey := Store.claimable?_key keyed claimed
    refine (tryJob?_after_claim s _ sameKey ?_ k).trans (if_neg other)
    exact sameKey
  | refused timeout claimed =>
    have sameKey := Store.claimable?_key keyed claimed
    refine (tryJob?_after_claim s _ sameKey ?_ k).trans (if_neg other)
    exact sameKey

/-- A try job that is handed out is in flight. It is new, or the scheduler knows it. -/
theorem Scheduling.handedOut {job : TryJob}
    (scheduling : Scheduling services key range suspects now s (.ok job) s')
    (keyed : s.store.Keyed) :
    s'.store.tryJob? key = some job ∧ job.status.isTerminal = false ∧
      (job.tryJobIds = [] → s.store.tryJob? key = some job) := by
  cases scheduling with
  | inFlight timeout stored held =>
    unfold TryJob.isClaimable at held
    exact ⟨stored, (Bool.or_eq_false_iff.mp held).1, fun _ => stored⟩
  | accepted timeout claimed =>
    have sameKey := Store.claimable?_key keyed claimed
    refine ⟨(tryJob?_after_claim s _ sameKey ?_ key).trans (if_pos rfl), ?_, fun none_ => ?_⟩
    · exact sameKey
    · exact congrArg TryJobStatus.isTerminal (Store.claimable?_pending claimed)
    · exact absurd none_ (List.append_ne_nil_of_right_ne_nil _ (List.cons_ne_nil _ _))

theorem Scheduling.refused_status {text : String} {cause : SchedulerError}
    (scheduling : Scheduling services key range suspects now s
      (.error (.tryJobScheduling text cause)) s') (keyed : s.store.Keyed) :
    ∃ job, s'.store.tryJob? key = some job ∧ job.status = .error := by
  cases scheduling with
  | refused timeout claimed =>
    have sameKey := Store.claimable?_key keyed claimed
    refine ⟨_, (tryJob?_after_claim s _ sameKey ?_ key).trans (if_pos rfl), rfl⟩
    exact sameKey

end

end CulpritFinding
