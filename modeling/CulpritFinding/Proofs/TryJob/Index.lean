import CulpritFinding.Proofs.Run

namespace CulpritFinding

inductive TryJobAccess
  | claim (key : FailureKey) (now : Instant) (staleAfter : Span)
  | update (job : TryJob)

def TryJobAccess.run (services : Services) : TryJobAccess → Engine Unit
  | claim key now staleAfter => (fun _ => ()) <$> Engine.claimTryJob services key now staleAfter
  | update job => Engine.updateTryJob services job

structure AccessEpisode where
  services : Services
  access : TryJobAccess
  before : EngineState

namespace AccessEpisode

def answer (e : AccessEpisode) : Except AnalysisError Unit :=
  ((e.access.run e.services).runOn e.before).1

def after (e : AccessEpisode) : EngineState := ((e.access.run e.services).runOn e.before).2

def written? (e : AccessEpisode) : Option TryJob :=
  match e.access, e.answer with
  | .update job, .ok () => some job
  | _, _ => none

end AccessEpisode

inductive AccessRun : List AccessEpisode → EngineState → Prop
  | start : AccessRun [] .initial
  | step {past : List AccessEpisode} {e : AccessEpisode} (run : AccessRun past e.before) :
      AccessRun (e :: past) e.after

def writtenJobs (past : List AccessEpisode) : List TryJob := past.filterMap (·.written?)

inductive AccessStep (e : AccessEpisode) : Prop
  | unchanged (written : e.written? = none) (after : e.after = e.before)
  | claimed {claim : TryJob} (answer : e.answer = .ok ()) (written : e.written? = none)
      (after : e.after = e.before.claiming claim)
  | updated {job : TryJob} (answer : e.answer = .ok ()) (written : e.written? = some job)
      (after : e.after = { e.before with store := e.before.store.withTryJob job })

variable {e : AccessEpisode} {past : List AccessEpisode} {s : EngineState}

theorem Engine.runOn_updateTryJob_absent {services : Services}
    (works : services.storeFault .updateTryJob = none) {job : TryJob}
    (absent : s.store.tryJob? job.key = none) :
    (updateTryJob services job).runOn s =
      (.error (.store (.notFound .tryJob job.key.text)), s) := by
  have missing : s.store.tryJobs.get? job.key = none := absent
  unfold updateTryJob
  rw [runOn_write works, Store.updateTryJob, missing]
  rfl

theorem Engine.runOn_updateTryJob_cases (services : Services) (job : TryJob) (s : EngineState) :
    (updateTryJob services job).runOn s = (.ok (), { s with store := s.store.withTryJob job }) ∨
      ∃ error, (updateTryJob services job).runOn s = (.error error, s) := by
  cases fault : services.storeFault .updateTryJob with
  | some reason => exact .inr ⟨_, runOn_updateTryJob_fault fault job s⟩
  | none =>
    cases stored : s.store.tryJob? job.key with
    | none => exact .inr ⟨_, runOn_updateTryJob_absent fault stored⟩
    | some former => exact .inl (runOn_updateTryJob fault job (Option.isSome_of_eq_some stored))

theorem AccessStep.of_claim (keyed : e.before.store.Keyed) {key : FailureKey} {now : Instant}
    {staleAfter : Span} (access : e.access = .claim key now staleAfter) : AccessStep e := by
  have ran : (e.answer, e.after) =
      ((fun _ => ()) <$> Engine.claimTryJob e.services key now staleAfter).runOn e.before := by
    unfold AccessEpisode.answer AccessEpisode.after
    rw [access, TryJobAccess.run]
  have written : e.written? = none := by
    unfold AccessEpisode.written?
    rw [access]
  rw [Engine.runOn_map, Prod.mk.injEq] at ran
  obtain ⟨answer, after⟩ := ran
  rcases Engine.runOn_claimTryJob_cases e.services keyed key now staleAfter with
    ⟨claim, claimed, -, claims⟩ | unchanged
  · rw [claims] at answer after
    exact .claimed answer written after
  · exact .unchanged written (after.trans unchanged)

theorem AccessStep.of_update {job : TryJob} (access : e.access = .update job) : AccessStep e := by
  have ran : (e.answer, e.after) = (Engine.updateTryJob e.services job).runOn e.before := by
    unfold AccessEpisode.answer AccessEpisode.after
    rw [access, TryJobAccess.run]
  rcases Engine.runOn_updateTryJob_cases e.services job e.before with wrote | ⟨error, failed⟩
  · rw [wrote, Prod.mk.injEq] at ran
    have written : e.written? = some job := by
      unfold AccessEpisode.written?
      rw [access, ran.1]
    exact .updated ran.1 written ran.2
  · rw [failed, Prod.mk.injEq] at ran
    have written : e.written? = none := by
      unfold AccessEpisode.written?
      rw [access, ran.1]
    exact .unchanged written ran.2

theorem AccessEpisode.step (keyed : e.before.store.Keyed) : AccessStep e := by
  cases access : e.access with
  | claim key now staleAfter => exact .of_claim keyed access
  | update job => exact .of_update access

/-- What the identifiers lead to, and what they have been written with. -/
structure Store.IndexedBy (s : Store) (written : List TryJob) : Prop where
  owner : ∀ {id key}, s.tryJobOwners.get? id = some key ↔
    ∃ job ∈ written, job.key = key ∧ id ∈ job.tryJobIds
  present : ∀ job ∈ written, (s.tryJob? job.key).isSome

def ListedApart (written : List TryJob) : Prop :=
  ∀ job ∈ written, ∀ job' ∈ written, ∀ id ∈ job.tryJobIds, id ∈ job'.tryJobIds →
    job.key = job'.key

instance (written : List TryJob) : Decidable (ListedApart written) :=
  inferInstanceAs (Decidable (∀ job ∈ written, _))

namespace Store.IndexedBy

variable {store : Store} {written : List TryJob}

theorem claim (indexed : store.IndexedBy written) (claim : TryJob) :
    (store.withClaim claim).IndexedBy written where
  owner := indexed.owner
  present := by
    intro job member
    rw [tryJob?_withClaim]
    split
    · rfl
    · exact indexed.present job member

theorem update (indexed : store.IndexedBy written) {job : TryJob}
    (apart : ListedApart (job :: written)) : (store.withTryJob job).IndexedBy (job :: written) where
  owner := by
    intro id key
    rw [tryJobOwners_withTryJob]
    split
    · rename_i own
      rw [Option.some_inj]
      constructor
      · exact fun same => ⟨job, List.mem_cons_self, same, own⟩
      · rintro ⟨listing, member, rfl, listed⟩
        exact apart job List.mem_cons_self listing member id own listed
    · rename_i other
      rw [indexed.owner]
      constructor
      · rintro ⟨listing, member, same, listed⟩
        exact ⟨listing, List.mem_cons_of_mem _ member, same, listed⟩
      · rintro ⟨listing, member, same, listed⟩
        rcases List.mem_cons.mp member with rfl | earlier
        · exact absurd listed other
        · exact ⟨listing, earlier, same, listed⟩
  present := by
    intro listing member
    rw [tryJob?_withTryJob]
    split
    · rfl
    · rename_i other
      rcases List.mem_cons.mp member with rfl | earlier
      · exact absurd rfl other
      · exact indexed.present listing earlier

theorem tryJobWithId? (indexed : store.IndexedBy written) {job : TryJob} (member : job ∈ written)
    {id : String} (listed : id ∈ job.tryJobIds) :
    store.tryJobWithId? id = store.tryJob? job.key := by
  unfold Store.tryJobWithId?
  rw [indexed.owner.mpr ⟨job, member, rfl, listed⟩]
  rfl

end Store.IndexedBy

theorem writtenJobs_cons (e : AccessEpisode) (past : List AccessEpisode) :
    writtenJobs (e :: past) = e.written?.toList ++ writtenJobs past := by
  unfold writtenJobs
  rw [List.filterMap_cons]
  cases e.written? <;> rfl

theorem AccessRun.keyed (run : AccessRun past s) : s.store.Keyed := by
  induction run with
  | start => exact Store.keyed_empty
  | step run keyed =>
    cases AccessEpisode.step keyed with
    | unchanged written after => exact after ▸ keyed
    | claimed answer written after => exact after ▸ keyed.withClaim _
    | updated answer written after => exact after ▸ keyed.withTryJob _

theorem AccessRun.indexedBy (run : AccessRun past s) (apart : ListedApart (writtenJobs past)) :
    s.store.IndexedBy (writtenJobs past) := by
  induction run with
  | start => exact ⟨⟨nofun, fun ⟨_, member, _⟩ => nomatch member⟩, List.forall_mem_nil _⟩
  | @step past e run indexed =>
    rw [writtenJobs_cons] at apart ⊢
    cases AccessEpisode.step run.keyed with
    | unchanged written after =>
      rw [written] at apart ⊢
      exact after ▸ indexed apart
    | claimed answer written after =>
      rw [written] at apart ⊢
      exact after ▸ (indexed apart).claim _
    | @updated job answer written after =>
      rw [written] at apart ⊢
      have earlier : ListedApart (writtenJobs past) := fun listing member listing' member' =>
        apart listing (List.mem_cons_of_mem _ member) listing' (List.mem_cons_of_mem _ member')
      exact after ▸ (indexed earlier).update apart

theorem AccessRun.failed (run : AccessRun past s) :
    ∀ e ∈ past, ∀ error, e.answer = .error error → e.after = e.before := by
  induction run with
  | start => exact List.forall_mem_nil _
  | @step past e run earlier =>
    refine List.forall_mem_cons.mpr ⟨fun error failed => ?_, earlier⟩
    cases AccessEpisode.step run.keyed with
    | unchanged written after => exact after
    | claimed answer written after => cases answer.symm.trans failed
    | updated answer written after => cases answer.symm.trans failed

/-- Whatever is claimed and written, if no identifier is listed by jobs of two keys, it leads to a
try job just if a write has listed it under the key of that job, and then to what is stored under
this key at the time. A claim or a write that fails changes nothing. -/
theorem AccessRun.identifier_leads_iff (run : AccessRun past s)
    (apart : ListedApart (writtenJobs past)) (id : String) :
    (∀ job, s.store.tryJobWithId? id = some job ↔
      s.store.tryJob? job.key = some job ∧
        ∃ listing ∈ writtenJobs past, listing.key = job.key ∧ id ∈ listing.tryJobIds) ∧
    (∀ listing ∈ writtenJobs past, id ∈ listing.tryJobIds →
      s.store.tryJobWithId? id = s.store.tryJob? listing.key ∧
        (s.store.tryJob? listing.key).isSome) ∧
    ∀ e ∈ past, ∀ error, e.answer = .error error → e.after = e.before := by
  have indexed := run.indexedBy apart
  refine ⟨fun job => ⟨fun found => ?_, ?_⟩, fun listing member listed => ?_, run.failed⟩
  · obtain ⟨key, owner, stored⟩ := Store.tryJobWithId?_eq_some.mp found
    have own : job.key = key := run.keyed.tryJob stored
    obtain ⟨listing, member, same, listed⟩ := indexed.owner.mp owner
    exact ⟨own ▸ stored, listing, member, same.trans own.symm, listed⟩
  · rintro ⟨stored, listing, member, same, listed⟩
    rw [indexed.tryJobWithId? member listed, same, stored]
  · exact ⟨indexed.tryJobWithId? member listed, indexed.present listing member⟩

namespace Relisted

def first : AccessEpisode :=
  ⟨.giving "8000001", .claim brokenCompile ⟨0, 0⟩ ⟨600000000000⟩, .initial⟩

def listing : TryJob :=
  { TryJob.new brokenCompile ⟨0, 0⟩ with status := .completed, tryJobIds := ["8000001"] }

def listed : AccessEpisode := ⟨.giving "8000001", .update listing, first.after⟩

def unclaimed : TryJob :=
  { TryJob.new ⟨⟨"chromium", "mac", 1⟩, .compile⟩ ⟨0, 0⟩ with tryJobIds := ["8000009"] }

def failed : AccessEpisode := ⟨.giving "8000001", .update unclaimed, listed.after⟩

def revived : AccessEpisode :=
  ⟨.giving "8000001", .claim brokenCompile ⟨180, 0⟩ ⟨600000000000⟩, failed.after⟩

/-- A write that drops the identifier of the first attempt. -/
def current : TryJob := { listing.revive ⟨180, 0⟩ with tryJobIds := ["8000002"] }

def dropped : AccessEpisode := ⟨.giving "8000001", .update current, revived.after⟩

def accesses : List AccessEpisode := [dropped, revived, failed, listed, first]

theorem run : AccessRun accesses dropped.after := .step (.step (.step (.step (.step .start))))

theorem dropped_identifier_leads :
    ListedApart (writtenJobs accesses) ∧
      dropped.after.store.tryJobWithId? "8000001" = some current ∧
      "8000001" ∉ current.tryJobIds ∧ failed.after = failed.before ∧
      dropped.after.store.tryJobWithId? "8000009" = none := by
  have apart : ListedApart (writtenJobs accesses) := by decide +kernel
  have stored : dropped.after.store.tryJob? brokenCompile = some current := by decide +kernel
  have wrote : listing ∈ writtenJobs accesses := by decide +kernel
  have absent : failed.before.store.tryJob? unclaimed.key = none := by decide +kernel
  have refused : failed.answer = .error (.store (.notFound .tryJob unclaimed.key.text)) :=
    congrArg Prod.fst (Engine.runOn_updateTryJob_absent rfl absent)
  obtain ⟨leads, -, unchanged⟩ := AccessRun.identifier_leads_iff run apart "8000001"
  have unknown := (AccessRun.identifier_leads_iff run apart "8000009").1
  refine ⟨apart, (leads current).mpr ⟨stored, listing, wrote, rfl, by decide⟩, by decide,
    unchanged failed (by simp [accesses]) _ refused, ?_⟩
  refine Option.eq_none_iff_forall_ne_some.mpr fun job found => ?_
  obtain ⟨-, wrong, member, -, listed⟩ := (unknown job).mp found
  have never : ∀ job ∈ writtenJobs accesses, "8000009" ∉ job.tryJobIds := by decide +kernel
  exact never wrong member listed

end Relisted

end CulpritFinding
