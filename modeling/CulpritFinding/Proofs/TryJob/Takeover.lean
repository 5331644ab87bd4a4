import CulpritFinding.Proofs.TryJob.History

namespace CulpritFinding

/-- Whether a call claimed the try job under a key: a claim that succeeds begins an attempt. -/
def Episode.claims (e : Episode) (key : FailureKey) : Bool :=
  (e.before.store.tryJob? key).map (·.attempt) ≠ (e.after.store.tryJob? key).map (·.attempt)

def idsSinceClaim (key : FailureKey) : List Episode → List String
  | [] => []
  | e :: past => (if e.claims key then [] else idsSinceClaim key past) ++ e.granted key

def idsBeforeClaim (key : FailureKey) : List Episode → List String
  | [] => []
  | e :: past => idsBeforeClaim key past ++ if e.claims key then idsSinceClaim key past else []

variable {key : FailureKey} {past : List Episode} {s : EngineState} {job : TryJob}
  {staleAfter : Span} {now : Instant}

theorem idsBeforeClaim_append (key : FailureKey) (past : List Episode) :
    idsBeforeClaim key past ++ idsSinceClaim key past = grantedIds key past := by
  induction past with
  | nil => rfl
  | cons e past both =>
    rw [idsBeforeClaim, idsSinceClaim, grantedIds, ← both]
    cases e.claims key with
    | true => simp only [if_true, List.nil_append, List.append_assoc]
    | false => simp only [Bool.false_eq_true, if_false, List.append_nil, List.append_assoc]

def Store.attemptOf (s : Store) (key : FailureKey) : Nat :=
  ((s.tryJob? key).map (·.attempt)).getD 0

theorem Store.claimable?_attempt {s : Store} {claim : TryJob}
    (claimed : s.claimable? key now staleAfter = some claim) :
    claim.attempt = s.attemptOf key + 1 := by
  unfold attemptOf
  rcases claimable?_cases claimed with ⟨absent, rfl⟩ | ⟨former, stored, -, -, rfl⟩
  · rw [absent]
    rfl
  · rw [stored]
    rfl

theorem Episode.attemptOf_of_kept {e : Episode}
    (same : (e.after.store.tryJob? key).map (·.attempt) =
      (e.before.store.tryJob? key).map (·.attempt)) :
    e.claims key = false ∧ e.after.store.attemptOf key = e.before.store.attemptOf key := by
  unfold claims Store.attemptOf
  rw [same]
  exact ⟨decide_eq_false fun other => other rfl, rfl⟩

theorem Episode.Writes.attemptOf {e : Episode} {claimed k : FailureKey}
    (jobs : e.Writes claimed job) (next : job.attempt = e.before.store.attemptOf claimed + 1) :
    e.after.store.attemptOf k = e.before.store.attemptOf k + if e.claims k then 1 else 0 := by
  by_cases same : claimed = k
  · subst k
    have after : e.after.store.attemptOf claimed = e.before.store.attemptOf claimed + 1 := by
      unfold Store.attemptOf
      rw [jobs, if_pos rfl]
      exact next
    have claims : e.claims claimed = true := by
      cases claims : e.claims claimed with
      | true => rfl
      | false =>
        have kept := of_decide_eq_false claims
        unfold Store.attemptOf at after
        rw [Decidable.not_not.mp kept] at after
        exact absurd after (Nat.ne_of_lt (Nat.lt_succ_self _))
    rw [after, claims]
    rfl
  · have kept : (e.after.store.tryJob? k).map (·.attempt) =
        (e.before.store.tryJob? k).map (·.attempt) := by
      rw [jobs, if_neg same]
    rw [(Episode.attemptOf_of_kept kept).1, (Episode.attemptOf_of_kept kept).2]
    rfl

theorem TryJobStep.attemptOf {e : Episode} (step : TryJobStep e) (key : FailureKey) :
    e.after.store.attemptOf key =
      e.before.store.attemptOf key + if e.claims key then 1 else 0 := by
  cases step with
  | idle jobs =>
    have kept : (e.after.store.tryJob? key).map (·.attempt) =
        (e.before.store.tryJob? key).map (·.attempt) := by
      rw [jobs]
    rw [(Episode.attemptOf_of_kept kept).1, (Episode.attemptOf_of_kept kept).2]
    rfl
  | claimed abandoned claimed jobs => exact jobs.attemptOf (Store.claimable?_attempt claimed)
  | accepted claimed jobs =>
    have next := Store.claimable?_attempt claimed
    exact jobs.attemptOf next
  | refused claimed jobs =>
    have next := Store.claimable?_attempt claimed
    exact jobs.attemptOf next
  | @followed written _ status now job stored awaits jobs =>
    have kept : (e.after.store.tryJob? key).map (·.attempt) =
        (e.before.store.tryJob? key).map (·.attempt) := by
      rw [jobs]
      split
      · subst key
        rw [stored, Option.map_some, TryJob.follow_attempt]
        rfl
      · rfl
    rw [(Episode.attemptOf_of_kept kept).1, (Episode.attemptOf_of_kept kept).2]
    rfl

theorem Run.attemptOf {admits : Episode → Prop} (run : Run admits past s)
    (works : ∀ e, admits e → e.call.isAnalysis → e.services.StoreWorks) (key : FailureKey) :
    s.store.attemptOf key = past.countP (·.claims key) := by
  induction run with
  | start => rfl
  | step run admitted counted =>
    have keyed := run.keyed works
    have step := (Episode.course keyed (works _ admitted)).tryJobStep keyed
    rw [step.attemptOf, counted, List.countP_cons]

theorem TryJob.isClaimable_of_pending (pending : job.status = .pending) (now : Instant)
    (staleAfter : Span) :
    job.isClaimable now staleAfter = true ↔
      staleAfter.nanos ≤ (now.since job.createdAt).nanos ∧ job.tryJobIds = [] := by
  unfold isClaimable isStaleClaim
  rw [pending]
  simp only [TryJobStatus.isTerminal, reduceCtorEq, decide_false, Bool.or_self, Bool.false_or,
    decide_true, Bool.true_and, Bool.and_eq_true, List.isEmpty_iff, decide_eq_true_eq]
  exact And.comm

/-- Whether the claim of a try job can be taken over: it is old enough, and the scheduler has given
no identifier for the try job, neither since the claim nor in an earlier attempt. -/
def CanTakeOver (past : List Episode) (job : TryJob) (now : Instant) (staleAfter : Span) : Prop :=
  staleAfter.nanos ≤ (now.since job.createdAt).nanos ∧
    idsSinceClaim job.key past = [] ∧ idsBeforeClaim job.key past = []

instance (past : List Episode) (job : TryJob) (now : Instant) (staleAfter : Span) :
    Decidable (CanTakeOver past job now staleAfter) := inferInstanceAs (Decidable (_ ∧ _ ∧ _))

def Episode.Bisects (e : Episode) : Prop := e.call.isAnalysis = false

theorem Run.isClaimable_iff (run : Run Episode.Bisects past s)
    (stored : s.store.tryJob? key = some job) (pending : job.status = .pending) (now : Instant)
    (staleAfter : Span) :
    job.isClaimable now staleAfter = true ↔ CanTakeOver past job now staleAfter := by
  have works : ∀ e : Episode, e.Bisects → e.call.isAnalysis → e.services.StoreWorks :=
    fun e bisects about => nomatch bisects.symm.trans about
  have carried : job.tryJobIds = grantedIds key past := by
    rw [← run.idsOf works]
    unfold Store.idsOf
    rw [stored]
    rfl
  unfold CanTakeOver
  rw [TryJob.isClaimable_of_pending pending, carried, (run.keyed works).tryJob stored,
    ← idsBeforeClaim_append, List.append_eq_nil_iff, And.comm (a := idsBeforeClaim key past = [])]

/-- A try job that waits for its build is claimed, and asked for again, exactly when its claim can
be taken over and its attempts can still be counted. -/
theorem Run.takeover (run : Run Episode.Bisects past s)
    (stored : s.store.tryJob? key = some job) (pending : job.status = .pending) (now : Instant)
    (staleAfter : Span) :
    s.store.claimTryJob key now staleAfter =
        (if CanTakeOver past job now staleAfter then
          if job.attempt + 1 < limit32 then
            (some (.revived (job.revive now)), s.store.withClaim (job.revive now))
          else (none, s.store)
        else (some (.inFlight job), s.store)) ∧
      ∀ services : Services, services.storeFault .claimTryJob = none →
        services.config.claimTimeout? = some staleAfter → ∀ range suspects,
        ((scheduleTryJob services key range suspects now).runOn s).2.submissions =
          s.submissions ++
            if CanTakeOver past job now staleAfter ∧ job.attempt + 1 < limit32 then
              [⟨requestFor services key range suspects,
                services.scheduler.trigger (requestFor services key range suspects)⟩]
            else [] := by
  have claimable := run.isClaimable_iff stored pending now staleAfter
  have keyed : s.store.Keyed := run.keyed fun e bisects about => nomatch bisects.symm.trans about
  by_cases free : CanTakeOver past job now staleAfter
  · by_cases more : job.attempt + 1 < limit32
    · have counted : job.isSpent = false := decide_eq_false (Nat.not_le.mpr more)
      have claimed : s.store.claimable? key now staleAfter = some (job.revive now) := by
        unfold Store.claimable?
        rw [stored]
        simp only [claimable.mpr free, if_true]
        exact TryJob.revive?_of_not_spent counted now
      rw [if_pos free, if_pos more, Store.claimTryJob_of_claimable keyed claimed, stored]
      refine ⟨rfl, fun services works timeout range suspects => ?_⟩
      rw [if_pos ⟨free, more⟩, scheduleTryJob_submissions keyed works timeout claimed]
    · have spent : s.store.SpentAt key now staleAfter :=
        ⟨job, stored, claimable.mpr free, decide_eq_true (Nat.not_lt.mp more)⟩
      rw [if_pos free, if_neg more, Store.claimTryJob_of_spent spent]
      refine ⟨rfl, fun services works timeout range suspects => ?_⟩
      rw [if_neg fun both => more both.2, List.append_nil,
        scheduleTryJob_of_spent works timeout spent]
  · have held : job.isClaimable now staleAfter = false :=
      Bool.eq_false_iff.mpr fun taken => free (claimable.mp taken)
    rw [if_neg free, Store.claimTryJob_of_held stored held]
    refine ⟨rfl, fun services works timeout range suspects => ?_⟩
    rw [if_neg fun both => free both.1, List.append_nil,
      scheduleTryJob_of_held works timeout stored held]

namespace Abandoned

def first : Episode :=
  ⟨.giving "8000001", .schedule brokenCompile brokenRange [] ⟨0, 0⟩, .initial⟩

def ended : Episode :=
  ⟨.giving "8000002", .update "8000001" (.completed .infraFailure none none) ⟨120, 0⟩, first.after⟩

def claimed : Episode :=
  ⟨.giving "8000002", .claim brokenCompile ⟨180, 0⟩ ⟨600000000000⟩, ended.after⟩

def calls : List Episode := [claimed, ended, first]

theorem run : Run Episode.Bisects calls claimed.after := by
  refine .step (.step (.step .start ?_) ?_) ?_ <;> rfl

def abandoned : TryJob :=
  { TryJob.new brokenCompile ⟨180, 0⟩ with
    attempt := 2, tryJobIds := ["8000001"], range := some brokenRange }

theorem held_second_attempt :
    idsSinceClaim brokenCompile calls = [] ∧
      claimed.after.store.claimTryJob brokenCompile ⟨3780, 0⟩ ⟨600000000000⟩ =
        (some (.inFlight abandoned), claimed.after.store) := by
  have stored : claimed.after.store.tryJob? brokenCompile = some abandoned := by decide +kernel
  have taken := (Run.takeover run stored rfl ⟨3780, 0⟩ ⟨600000000000⟩).1
  have held : ¬ CanTakeOver calls abandoned ⟨3780, 0⟩ ⟨600000000000⟩ := by decide +kernel
  rw [if_neg held] at taken
  refine ⟨?_, taken⟩
  decide +kernel

end Abandoned

end CulpritFinding
