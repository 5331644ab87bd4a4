import CulpritFinding.Store

namespace CulpritFinding

namespace TryJob

def isClaimable (j : TryJob) (now : Instant) (staleAfter : Span) : Bool :=
  j.status.isTerminal || j.isStaleClaim now staleAfter

def revive (j : TryJob) (now : Instant) : TryJob :=
  { j with
    attempt := j.attempt + 1
    status := .pending
    createdAt := now
    startedAt := none
    completedAt := none
    elapsedSeconds := none
    error := none }

def isSpent (j : TryJob) : Bool := limit32 ≤ j.attempt + 1

theorem revive?_of_spent {j : TryJob} (spent : j.isSpent = true) (now : Instant) :
    j.revive? now = none :=
  if_neg (Nat.not_lt.mpr (of_decide_eq_true spent))

theorem revive?_of_not_spent {j : TryJob} (more : j.isSpent = false) (now : Instant) :
    j.revive? now = some (j.revive now) :=
  if_pos (Nat.lt_of_not_le (of_decide_eq_false more))

end TryJob

namespace Store

variable {s : Store} {key : FailureKey} {job : TryJob} {now : Instant} {staleAfter : Span}

def withTryJob (s : Store) (job : TryJob) : Store :=
  { s with
    tryJobs := s.tryJobs.put job.key job
    tryJobOwners := job.tryJobIds.foldl (fun t id => t.put id job.key) s.tryJobOwners }

/-- A store with a claimed try job. A claim brings no identifiers with it. -/
def withClaim (s : Store) (job : TryJob) : Store :=
  { s with tryJobs := s.tryJobs.put job.key job }

def claimable? (s : Store) (key : FailureKey) (now : Instant) (staleAfter : Span) :
    Option TryJob :=
  match s.tryJob? key with
  | none => some (TryJob.new key now)
  | some job => if job.isClaimable now staleAfter then job.revive? now else none

def SpentAt (s : Store) (key : FailureKey) (now : Instant) (staleAfter : Span) : Prop :=
  ∃ job, s.tryJob? key = some job ∧ job.isClaimable now staleAfter = true ∧ job.isSpent = true

structure Keyed (s : Store) : Prop where
  analysis : ∀ {key a}, s.analysis? key = some a → a.key = key
  tryJob : ∀ {key job}, s.tryJob? key = some job → job.key = key

theorem tryJob?_withTryJob (s : Store) (job : TryJob) (key : FailureKey) :
    (s.withTryJob job).tryJob? key = if job.key = key then some job else s.tryJob? key :=
  Table.get?_put ..

theorem tryJob?_withClaim (s : Store) (job : TryJob) (key : FailureKey) :
    (s.withClaim job).tryJob? key = if job.key = key then some job else s.tryJob? key :=
  Table.get?_put ..

theorem tryJobOwners_withTryJob (s : Store) (job : TryJob) (id : String) :
    (s.withTryJob job).tryJobOwners.get? id =
      if id ∈ job.tryJobIds then some job.key else s.tryJobOwners.get? id := by
  unfold withTryJob
  dsimp only
  generalize s.tryJobOwners = owners
  induction job.tryJobIds generalizing owners with
  | nil => simp
  | cons first rest ih =>
    rw [List.foldl_cons, ih, Table.get?_put]
    by_cases later : id ∈ rest
    · simp [later]
    · by_cases same : id = first
      · simp [same]
      · simp [later, same, Ne.symm same]

theorem Keyed.of_write (keyed : s.Keyed) {s' : Store} (analyses : s'.analyses = s.analyses)
    (write : ∀ key, s'.tryJob? key = if job.key = key then some job else s.tryJob? key) :
    s'.Keyed where
  analysis := by
    intro key a stored
    unfold analysis? at stored
    rw [analyses] at stored
    exact keyed.analysis stored
  tryJob := by
    intro key found stored
    rw [write] at stored
    split at stored
    · cases stored
      assumption
    · exact keyed.tryJob stored

theorem Keyed.withTryJob (keyed : s.Keyed) (job : TryJob) : (s.withTryJob job).Keyed :=
  keyed.of_write rfl (s.tryJob?_withTryJob job)

theorem Keyed.withClaim (keyed : s.Keyed) (job : TryJob) : (s.withClaim job).Keyed :=
  keyed.of_write rfl (s.tryJob?_withClaim job)

theorem tryJobWithId?_eq_some {id : String} :
    s.tryJobWithId? id = some job ↔
      ∃ key, s.tryJobOwners.get? id = some key ∧ s.tryJob? key = some job := by
  unfold tryJobWithId?
  rw [Option.bind_eq_some_iff]
  rfl

theorem updateTryJob_of_present (present : (s.tryJob? job.key).isSome) :
    s.updateTryJob job = .ok (s.withTryJob job) := by
  have taken : (s.tryJobs.get? job.key).isSome := present
  simp only [updateTryJob, taken, if_true]
  rfl

/-- A claim succeeds, or a try job in flight is in its way, or it has had too many attempts. -/
theorem claimable_or_held (s : Store) (key : FailureKey) (now : Instant) (staleAfter : Span) :
    (∃ job, s.claimable? key now staleAfter = some job) ∨
      (∃ job, s.tryJob? key = some job ∧ job.isClaimable now staleAfter = false) ∨
      s.SpentAt key now staleAfter := by
  unfold claimable? SpentAt
  cases stored : s.tryJob? key with
  | none => exact .inl ⟨_, rfl⟩
  | some job =>
    cases claimable : job.isClaimable now staleAfter with
    | false => exact .inr (.inl ⟨job, rfl, claimable⟩)
    | true =>
      cases spent : job.isSpent with
      | true => exact .inr (.inr ⟨job, rfl, claimable, spent⟩)
      | false =>
        refine .inl ⟨job.revive now, ?_⟩
        simp only [claimable, if_true]
        exact TryJob.revive?_of_not_spent spent now

theorem claimable?_cases (claim : s.claimable? key now staleAfter = some job) :
    (s.tryJob? key = none ∧ job = TryJob.new key now) ∨
      ∃ former, s.tryJob? key = some former ∧ former.isClaimable now staleAfter = true ∧
        former.isSpent = false ∧ job = former.revive now := by
  unfold claimable? at claim
  cases stored : s.tryJob? key with
  | none =>
    rw [stored] at claim
    exact .inl ⟨rfl, (Option.some.inj claim).symm⟩
  | some former =>
    rw [stored] at claim
    cases claimable : former.isClaimable now staleAfter <;> simp only [claimable] at claim
    · cases claim
    · cases spent : former.isSpent with
      | true => cases (TryJob.revive?_of_spent spent now).symm.trans claim
      | false =>
        have revived := (TryJob.revive?_of_not_spent spent now).symm.trans claim
        exact .inr ⟨former, rfl, claimable, spent, (Option.some.inj revived).symm⟩

theorem claimable?_pending (claim : s.claimable? key now staleAfter = some job) :
    job.status = .pending := by
  rcases claimable?_cases claim with ⟨-, rfl⟩ | ⟨former, -, -, -, rfl⟩ <;> rfl

theorem claimable?_key (keyed : s.Keyed) (claim : s.claimable? key now staleAfter = some job) :
    job.key = key := by
  rcases claimable?_cases claim with ⟨-, rfl⟩ | ⟨former, stored, -, -, rfl⟩
  · rfl
  · exact (keyed.tryJob stored : former.key = key)

theorem claimTryJob_frame (s : Store) (key : FailureKey) (now : Instant) (staleAfter : Span) :
    ∃ tryJobs, (s.claimTryJob key now staleAfter).2 = { s with tryJobs } := by
  unfold claimTryJob
  split
  · exact ⟨_, rfl⟩
  · split
    · split <;> exact ⟨_, rfl⟩
    · exact ⟨_, rfl⟩

theorem claimTryJob_claim (claim : s.claimable? key now staleAfter = some job) :
    (s.claimTryJob key now staleAfter).1 =
      some (if (s.tryJob? key).isSome then .revived job else .created job) := by
  unfold claimTryJob
  change (match s.tryJob? key with | none => _ | some job => _ : Option TryJobClaim × Store).1 = _
  rcases claimable?_cases claim with ⟨absent, rfl⟩ | ⟨former, stored, claimable, more, rfl⟩
  · rw [absent]
    rfl
  · rw [TryJob.isClaimable] at claimable
    rw [stored]
    simp only [claimable, if_true, TryJob.revive?_of_not_spent more, Option.isSome_some]

theorem claimTryJob_of_claimable (keyed : s.Keyed)
    (claim : s.claimable? key now staleAfter = some job) :
    s.claimTryJob key now staleAfter =
      (some (if (s.tryJob? key).isSome then .revived job else .created job), s.withClaim job) := by
  have sameKey := claimable?_key keyed claim
  unfold claimTryJob withClaim
  change (match s.tryJob? key with | none => _ | some job => _) = _
  rcases claimable?_cases claim with ⟨absent, rfl⟩ | ⟨former, stored, claimable, more, rfl⟩
  · rw [absent]
    rfl
  · rw [TryJob.isClaimable] at claimable
    rw [stored, sameKey]
    simp only [claimable, if_true, TryJob.revive?_of_not_spent more, Option.isSome_some]

theorem claimTryJob_of_held (stored : s.tryJob? key = some job)
    (held : job.isClaimable now staleAfter = false) :
    s.claimTryJob key now staleAfter = (some (.inFlight job), s) := by
  rw [TryJob.isClaimable] at held
  unfold claimTryJob
  change (match s.tryJob? key with | none => _ | some job => _) = _
  rw [stored]
  simp only [held]
  rfl

theorem claimTryJob_of_spent (spent : s.SpentAt key now staleAfter) :
    s.claimTryJob key now staleAfter = (none, s) := by
  obtain ⟨job, stored, claimable, spent⟩ := spent
  rw [TryJob.isClaimable] at claimable
  unfold claimTryJob
  change (match s.tryJob? key with | none => _ | some job => _) = _
  rw [stored]
  simp only [claimable, if_true, TryJob.revive?_of_spent spent]

end Store

end CulpritFinding
