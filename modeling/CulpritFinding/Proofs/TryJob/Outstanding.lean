import CulpritFinding.Proofs.TryJob.History

namespace CulpritFinding

variable {e : Episode} {key : FailureKey} {past : List Episode} {s : EngineState}

theorem outstandingIds_of_kept (granted : e.granted key = []) (ended : e.ended? = none) :
    outstandingIds key (e :: past) = outstandingIds key past := by
  unfold outstandingIds
  rw [grantedIds, endedIds, granted, ended, List.append_nil]
  rfl

theorem outstandingIds_of_granted {id : String} (granted : e.granted key = [id])
    (ended : e.ended? = none) (new : id ∉ endedIds past) :
    outstandingIds key (e :: past) = outstandingIds key past ++ [id] := by
  have unended : [id].filter (· ∉ endedIds past) = [id] :=
    List.filter_eq_self.mpr fun i member =>
      decide_eq_true (List.mem_singleton.mp member ▸ new)
  unfold outstandingIds
  rw [grantedIds, endedIds, granted, ended, List.filter_append]
  exact congrArg _ unended

theorem outstandingIds_of_ended {id : String} (granted : e.granted key = [])
    (ended : e.ended? = some id) :
    outstandingIds key (e :: past) = (outstandingIds key past).filter (· ≠ id) := by
  unfold outstandingIds
  rw [grantedIds, endedIds, granted, ended, List.append_nil, List.filter_filter]
  apply List.filter_congr
  intro i _
  simp only [Option.toList_some, List.singleton_append, List.mem_cons, not_or, Bool.decide_and,
    ne_eq]

theorem outstandingIds_of_followed {id : String} {isEnd : Bool} (granted : e.granted key = [])
    (ended : e.ended? = if isEnd then some id else none) :
    outstandingIds key (e :: past) =
      if isEnd then (outstandingIds key past).filter (· ≠ id) else outstandingIds key past := by
  cases isEnd with
  | true => exact outstandingIds_of_ended granted ended
  | false => exact outstandingIds_of_kept granted ended

/-- How the record of a try job accounts for its outstanding builds. -/
structure TryJob.Balanced (j : TryJob) (outstanding : List String) : Prop where
  finished : j.status.isTerminal = true → outstanding = []
  busy : j.status.isTerminal = false →
    ∃ id, j.tryJobIds.getLast? = some id ∧ outstanding = [id]
  reports : j.reports.length + outstanding.length ≤ j.tryJobIds.length
  attempts : j.tryJobIds.length ≤ j.attempt

theorem TryJob.Balanced.claimable {j : TryJob} {outstanding : List String} {now : Instant}
    {staleAfter : Span} (balanced : j.Balanced outstanding)
    (claimable : j.isClaimable now staleAfter = true) : outstanding = [] := by
  cases finished : j.status.isTerminal with
  | true => exact balanced.finished finished
  | false =>
    obtain ⟨id, last, -⟩ := balanced.busy finished
    have triggered : j.tryJobIds.isEmpty = false := by
      cases ids : j.tryJobIds with
      | nil =>
        rw [ids] at last
        cases last
      | cons => rfl
    unfold isClaimable isStaleClaim at claimable
    rw [finished, triggered] at claimable
    simp only [Bool.and_false, Bool.false_and, Bool.or_false, Bool.false_eq_true] at claimable

structure Balanced (past : List Episode) (s : EngineState) : Prop where
  jobs : ∀ {key job}, s.store.tryJob? key = some job → job.Balanced (outstandingIds key past)
  absent : ∀ {key}, s.store.tryJob? key = none → grantedIds key past = []
  accepted : ∀ {id}, id ∈ s.acceptedIds ↔ ∃ key, id ∈ grantedIds key past
  apart : ∀ {key key' id}, id ∈ grantedIds key past → id ∈ grantedIds key' past → key = key'
  ended : ∀ {id}, id ∈ endedIds past → id ∈ s.acceptedIds

theorem Balanced.claimed (balanced : Balanced past s) {now : Instant} {staleAfter : Span}
    {claim : TryJob} (claimed : s.store.claimable? key now staleAfter = some claim) :
    outstandingIds key past = [] ∧ claim.reports.length ≤ claim.tryJobIds.length ∧
      claim.tryJobIds.length < claim.attempt := by
  rcases Store.claimable?_cases claimed with ⟨absent, rfl⟩ | ⟨former, stored, claimable, -, rfl⟩
  · refine ⟨?_, Nat.le_refl 0, Nat.one_pos⟩
    unfold outstandingIds
    rw [balanced.absent absent]
    rfl
  · have job := balanced.jobs stored
    have none_ := job.claimable claimable
    have reports := job.reports
    rw [none_] at reports
    exact ⟨none_, reports, Nat.lt_succ_of_le job.attempts⟩

theorem TryJob.Balanced.accepted {j : TryJob} (reports : j.reports.length ≤ j.tryJobIds.length)
    (attempts : j.tryJobIds.length < j.attempt) (pending : j.status.isTerminal = false)
    (id : String) : (j.accepted id).Balanced [id] where
  finished := fun finished => nomatch pending.symm.trans finished
  busy := fun _ => ⟨id, List.getLast?_concat, rfl⟩
  reports := by
    unfold TryJob.accepted
    rw [List.length_append]
    exact Nat.succ_le_succ reports
  attempts := by
    unfold TryJob.accepted
    rw [List.length_append]
    exact attempts

theorem TryJob.Balanced.refused {j : TryJob} (reports : j.reports.length ≤ j.tryJobIds.length)
    (attempts : j.tryJobIds.length < j.attempt) (cause : SchedulerError) (now : Instant) :
    (j.refused cause now).Balanced [] where
  finished := fun _ => rfl
  busy := nofun
  reports := reports
  attempts := Nat.le_of_lt attempts

theorem TryJob.Balanced.follow {j : TryJob} {outstanding : List String} {tryJobId : String}
    (balanced : j.Balanced outstanding) (awaits : j.awaits tryJobId = true) (now : Instant)
    (status : ExternalStatus) :
    (j.follow now status).Balanced
      (if status.isEnd then outstanding.filter (· ≠ tryJobId) else outstanding) := by
  obtain ⟨running, last⟩ := awaits_iff.mp awaits
  obtain ⟨id, last', alone⟩ := balanced.busy running
  have same : id = tryJobId := Option.some.inj (last'.symm.trans last)
  subst same alone
  have reports := balanced.reports
  have attempts := balanced.attempts
  have gone : [id].filter (· ≠ id) = [] :=
    List.filter_eq_nil_iff.mpr fun i member =>
      fun other => of_decide_eq_true other (List.mem_singleton.mp member)
  refine ⟨fun finished => ?_, fun open_ => ?_, ?_, ?_⟩
  · rw [follow_isTerminal] at finished
    rw [if_pos finished]
    exact gone
  · rw [follow_isTerminal] at open_
    rw [open_, follow_tryJobIds]
    exact ⟨id, last, rfl⟩
  · rw [follow_reports, follow_tryJobIds]
    cases status with
    | completed result report endTime =>
      have atMostOne : report.toList.length ≤ 1 := by cases report <;> simp
      change (j.reports ++ report.toList).length + ([id].filter (· ≠ id)).length ≤ _
      rw [List.length_singleton] at reports
      rw [gone, List.length_append, List.length_nil]
      omega
    | scheduled =>
      rw [List.append_nil]
      exact reports
    | started =>
      rw [List.append_nil]
      exact reports
  · rw [follow_tryJobIds, follow_attempt]
    exact attempts

theorem Balanced.awaited (balanced : Balanced past s) {job : TryJob} {tryJobId : String}
    (stored : s.store.tryJob? key = some job) (awaits : job.awaits tryJobId = true) :
    tryJobId ∈ grantedIds key past := by
  obtain ⟨running, last⟩ := TryJob.awaits_iff.mp awaits
  obtain ⟨id, last', alone⟩ := (balanced.jobs stored).busy running
  have same : id = tryJobId := Option.some.inj (last'.symm.trans last)
  have member : tryJobId ∈ outstandingIds key past := by
    rw [alone, same]
    exact List.mem_singleton_self tryJobId
  exact (List.mem_filter.mp member).1

theorem Balanced.of_kept (balanced : Balanced past e.before)
    (accepted : e.after.acceptedIds = e.before.acceptedIds)
    (granted : ∀ key, e.granted key = []) (ended : ∀ id ∈ e.ended?, id ∈ e.before.acceptedIds)
    (absent : ∀ {key}, e.after.store.tryJob? key = none → e.before.store.tryJob? key = none)
    (jobs : ∀ {key job}, e.after.store.tryJob? key = some job →
      job.Balanced (outstandingIds key (e :: past))) :
    Balanced (e :: past) e.after := by
  have same : ∀ key, grantedIds key (e :: past) = grantedIds key past := by
    intro key
    rw [grantedIds, granted, List.append_nil]
  refine ⟨jobs, fun {key} missing => ?_, fun {id} => ?_,
    fun {key key' id} member member' => ?_, fun {id} member => ?_⟩
  · rw [same]
    exact balanced.absent (absent missing)
  · simp only [accepted, same]
    exact balanced.accepted
  · rw [same] at member member'
    exact balanced.apart member member'
  · rw [accepted]
    rcases List.mem_append.mp member with member | member
    · exact ended id (Option.mem_toList.mp member)
    · exact balanced.ended member

theorem Balanced.of_granted (balanced : Balanced past e.before) {id : String}
    (accepted : e.after.acceptedIds = e.before.acceptedIds ++ [id])
    (new : id ∉ e.before.acceptedIds) (granted : ∀ k, e.granted k = if key = k then [id] else [])
    (ended : e.ended? = none)
    (absent : ∀ {k}, e.after.store.tryJob? k = none →
      key ≠ k ∧ e.before.store.tryJob? k = none)
    (jobs : ∀ {k job}, e.after.store.tryJob? k = some job →
      job.Balanced (outstandingIds k (e :: past))) :
    Balanced (e :: past) e.after := by
  have brought : ∀ {k i}, i ∈ grantedIds k (e :: past) →
      i ∈ grantedIds k past ∨ (key = k ∧ i = id) := by
    intro k i member
    rw [grantedIds, granted, List.mem_append] at member
    rcases member with member | member
    · exact .inl member
    · split at member
      · exact .inr ⟨‹_›, List.mem_singleton.mp member⟩
      · cases member
  refine ⟨jobs, fun {k} missing => ?_, fun {i} => ?_, fun {k k' i} member member' => ?_,
    fun {i} member => ?_⟩
  · obtain ⟨other, missing⟩ := absent missing
    rw [grantedIds, granted, if_neg other, balanced.absent missing]
    rfl
  · rw [accepted, List.mem_append, balanced.accepted, List.mem_singleton]
    constructor
    · rintro (⟨k, member⟩ | rfl)
      · exact ⟨k, List.mem_append_left _ member⟩
      · refine ⟨key, List.mem_append_right _ ?_⟩
        rw [granted, if_pos rfl]
        exact List.mem_singleton_self i
    · rintro ⟨k, member⟩
      exact (brought member).imp (fun member => ⟨k, member⟩) And.right
  · rcases brought member with member | ⟨rfl, rfl⟩ <;>
      rcases brought member' with member' | ⟨same, same'⟩
    · exact balanced.apart member member'
    · exact absurd (balanced.accepted.mpr ⟨_, member⟩) (same' ▸ new)
    · exact absurd (balanced.accepted.mpr ⟨_, member'⟩) new
    · exact same
  · rw [endedIds, ended] at member
    rw [accepted, List.mem_append]
    exact .inl (balanced.ended member)

theorem Balanced.step (balanced : Balanced past e.before) (step : TryJobStep e)
    (works : e.services.StoreWorks) (triggered : e.call.isClaim = false)
    (fresh : e.after.acceptedIds.Nodup) : Balanced (e :: past) e.after := by
  cases step with
  | idle jobs accepted granted ended =>
    refine balanced.of_kept accepted granted (fun id member => ?_) (fun missing => ?_)
      fun {key job} stored => ?_
    · rw [ended] at member
      cases member
    · rw [← jobs]
      exact missing
    · rw [outstandingIds_of_kept (granted key) ended]
      rw [jobs] at stored
      exact balanced.jobs stored
  | claimed abandoned =>
    have claims := abandoned works
    rw [triggered] at claims
    cases claims
  | @accepted key range suspects now staleAfter claim id claimed jobs accepted granted ended =>
    obtain ⟨none_, reports, attempts⟩ := balanced.claimed claimed
    -- An identifier that is new has not come to its end before it was given.
    have new : id ∉ e.before.acceptedIds := by
      rw [accepted] at fresh
      have apart := (List.nodup_append.mp fresh).2.2
      exact fun known => apart id known id (List.mem_singleton_self id) rfl
    refine balanced.of_granted accepted new granted ended jobs.absent fun {k job} stored => ?_
    rcases jobs.cases stored with ⟨rfl, rfl⟩ | ⟨other, stored⟩
    · rw [outstandingIds_of_granted ((granted key).trans (if_pos rfl)) ended
        (fun finished => new (balanced.ended finished)), none_]
      refine .accepted ?_ ?_ ?_ id
      · exact reports
      · exact attempts
      · exact congrArg TryJobStatus.isTerminal (Store.claimable?_pending claimed)
    · rw [outstandingIds_of_kept ((granted k).trans (if_neg other)) ended]
      exact balanced.jobs stored
  | refused claimed jobs accepted granted ended =>
    obtain ⟨none_, reports, attempts⟩ := balanced.claimed claimed
    refine balanced.of_kept accepted granted (fun id member => ?_)
      (fun missing => (jobs.absent missing).2) fun {key job} stored => ?_
    · rw [ended] at member
      cases member
    · rw [outstandingIds_of_kept (granted key) ended]
      rcases jobs.cases stored with ⟨rfl, rfl⟩ | ⟨-, stored⟩
      · rw [none_]
        refine .refused ?_ ?_ ..
        · exact reports
        · exact attempts
      · exact balanced.jobs stored
  | @followed key tryJobId status now job stored awaits jobs accepted granted ended =>
    have awaited := balanced.awaited stored awaits
    refine balanced.of_kept accepted granted (fun id member => ?_)
      (fun missing => (jobs.absent missing).2) fun {k found} stored' => ?_
    · rw [ended] at member
      split at member <;> cases member
      exact balanced.accepted.mpr ⟨key, awaited⟩
    · rw [outstandingIds_of_followed (granted k) ended]
      rcases jobs.cases stored' with ⟨rfl, rfl⟩ | ⟨other, stored'⟩
      · exact (balanced.jobs stored).follow awaits now status
      · -- The build belongs to one key only, so what is outstanding under others stays.
        have absent : tryJobId ∉ outstandingIds k past := fun member =>
          other (balanced.apart awaited (List.mem_filter.mp member).1)
        have kept : (outstandingIds k past).filter (· ≠ tryJobId) = outstandingIds k past :=
          List.filter_eq_self.mpr fun id member =>
            decide_eq_true fun same => absent (same ▸ member)
        rw [kept, ite_self]
        exact balanced.jobs stored'

/-- A call with a store that works and a scheduler that gives no identifier twice, other than a
claim that is abandoned. -/
structure Episode.Orderly (e : Episode) : Prop where
  works : e.services.StoreWorks
  triggered : e.call.isClaim = false
  fresh : e.after.acceptedIds.Nodup

theorem Run.balanced (run : Run Episode.Orderly past s) : Balanced past s := by
  induction run with
  | start => exact ⟨nofun, fun _ => rfl, ⟨nofun, nofun⟩, nofun, nofun⟩
  | step run orderly balanced =>
    have keyed := run.keyed fun e orderly _ => Episode.Orderly.works orderly
    have course := Episode.course keyed fun _ => orderly.works
    exact balanced.step (course.tryJobStep keyed) orderly.works orderly.triggered orderly.fresh

/-- What a run leaves of the try job under a key, and of its builds. -/
structure OneOutstanding (key : FailureKey) (past : List Episode) (s : EngineState) : Prop where
  accounted : ∀ id ∈ s.acceptedIds, ∃ key, id ∈ grantedIds key past
  atMostOne : (outstandingIds key past).length ≤ 1
  inFlight : ∀ {job}, s.store.tryJob? key = some job → job.status.isTerminal = false →
    ∃ id, job.tryJobIds.getLast? = some id ∧ outstandingIds key past = [id]
  finished : ∀ {job}, s.store.tryJob? key = some job → job.status.isTerminal = true →
    outstandingIds key past = []
  /-- Where a build is outstanding the scheduler is not asked, and nothing is changed. The try job
  is handed out unless the claim timeout is too long. -/
  handedOut : outstandingIds key past ≠ [] → ∃ job, s.store.tryJob? key = some job ∧
    ∀ (services : Services), services.StoreWorks → ∀ range suspects now,
      (scheduleTryJob services key range suspects now).runOn s =
        (if services.config.claimTimeout?.isSome then .ok job else .error .outOfRange, s)
  reports : ∀ {job}, s.store.tryJob? key = some job →
    job.reports.length ≤ job.tryJobIds.length
  attempts : ∀ {job}, s.store.tryJob? key = some job → job.tryJobIds.length ≤ job.attempt
  extended : ∀ e ∈ past, ∀ {job}, e.before.store.tryJob? key = some job →
    ∃ later, s.store.tryJob? key = some later ∧ job.Extends later

/-- A failure is bisected by at most one build at a time. -/
theorem Run.oneOutstanding (run : Run Episode.Orderly past s) (key : FailureKey) :
    OneOutstanding key past s := by
  have balanced := run.balanced
  have unasked : s.store.tryJob? key = none → outstandingIds key past = [] := by
    intro missing
    unfold outstandingIds
    rw [balanced.absent missing]
    rfl
  refine ⟨fun id given => balanced.accepted.mp given, ?_, fun stored => (balanced.jobs stored).busy,
    fun stored => (balanced.jobs stored).finished, fun outstanding => ?_, fun stored => ?_,
    fun stored => (balanced.jobs stored).attempts, fun e member _ stored => ?_⟩
  · cases stored : s.store.tryJob? key with
    | none =>
      rw [unasked stored]
      exact Nat.zero_le 1
    | some job =>
      cases finished : job.status.isTerminal with
      | true =>
        rw [(balanced.jobs stored).finished finished]
        exact Nat.zero_le 1
      | false =>
        obtain ⟨id, -, alone⟩ := (balanced.jobs stored).busy finished
        rw [alone]
        exact Nat.le_refl 1
  · cases stored : s.store.tryJob? key with
    | none => exact absurd (unasked stored) outstanding
    | some job =>
      refine ⟨job, rfl, fun services works range suspects now => ?_⟩
      cases timeout : services.config.claimTimeout? with
      | none =>
        unfold scheduleTryJob
        rw [timeout]
        rfl
      | some staleAfter =>
        have held : job.isClaimable now staleAfter = false :=
          Bool.eq_false_iff.mpr fun claimable =>
            outstanding ((balanced.jobs stored).claimable claimable)
        exact scheduleTryJob_of_held (works _) timeout stored held range suspects
  · exact Nat.le_trans (Nat.le_add_right ..) (balanced.jobs stored).reports
  · exact run.extends (fun _ orderly _ => orderly.works) member stored

namespace Retried

def first : Episode :=
  ⟨.giving "8000001", .schedule brokenCompile brokenRange [] ⟨0, 0⟩, .initial⟩

def again : Episode :=
  ⟨.giving "8000002", .schedule brokenCompile brokenRange [] ⟨60, 0⟩, first.after⟩

def ended : Episode :=
  ⟨.giving "8000002", .update "8000001" (.completed .infraFailure none none) ⟨120, 0⟩, again.after⟩

def retried : Episode :=
  ⟨.giving "8000002", .schedule brokenCompile brokenRange [] ⟨180, 0⟩, ended.after⟩

def calls : List Episode := [retried, ended, again, first]

theorem run : Run Episode.Orderly calls retried.after :=
  .step (.step (.step (.step .start
    ⟨Services.giving_works _, rfl, by decide +kernel⟩)
    ⟨Services.giving_works _, rfl, by decide +kernel⟩)
    ⟨Services.giving_works _, rfl, by decide +kernel⟩)
    ⟨Services.giving_works _, rfl, by decide +kernel⟩

def overlong : Services :=
  let services := Services.giving "8000003"
  { services with config := { services.config with claimTimeoutSeconds := 9223372036854776 } }

theorem oneOutstanding_retried :
    outstandingIds brokenCompile calls = ["8000002"] ∧
      OneOutstanding brokenCompile calls retried.after ∧
      (scheduleTryJob overlong brokenCompile brokenRange [] ⟨240, 0⟩).runOn retried.after =
        (.error .outOfRange, retried.after) := by
  have one := Run.oneOutstanding run brokenCompile
  have outstanding : outstandingIds brokenCompile calls = ["8000002"] := by decide +kernel
  obtain ⟨job, -, handed⟩ := one.handedOut (by rw [outstanding]; decide)
  refine ⟨outstanding, one, ?_⟩
  rw [handed overlong (fun _ => rfl)]
  have untimed : ¬ overlong.config.claimTimeout?.isSome = true := by decide
  rw [if_neg untimed]

end Retried

end CulpritFinding
