import CulpritFinding.Proofs.TryJob.Takeover

namespace CulpritFinding

variable {key : FailureKey} {past : List Episode} {s : EngineState} {e : Episode} {job : TryJob}
  {id : String} {now : Instant}

theorem TryJobStep.acceptedIds_prefix (step : TryJobStep e) :
    e.before.acceptedIds <+: e.after.acceptedIds := by
  cases step with
  | idle jobs accepted => simp [accepted]
  | claimed abandoned claimed jobs granted ended accepted => exact accepted
  | accepted claimed jobs accepted => simp [accepted]
  | refused claimed jobs accepted => simp [accepted]
  | followed stored awaits jobs accepted => simp [accepted]

/-- What a run brought for the try jobs is known to the store, and the scheduler gave it. -/
structure Indexed (past : List Episode) (s : EngineState) : Prop where
  owner : ∀ {key id}, id ∈ grantedIds key past → s.store.tryJobOwners.get? id = some key
  accepted : ∀ key, (grantedIds key past).Sublist s.acceptedIds

theorem grantedIds_of_kept (granted : ∀ key, e.granted key = []) (key : FailureKey) :
    grantedIds key (e :: past) = grantedIds key past := by
  rw [grantedIds, granted, List.append_nil]

theorem Indexed.of_kept (indexed : Indexed past e.before) (granted : ∀ key, e.granted key = [])
    (accepted : e.before.acceptedIds <+: e.after.acceptedIds)
    (owners : e.after.store.tryJobOwners = e.before.store.tryJobOwners ∨
      ∃ key job, job.tryJobIds = grantedIds key past ∧ e.Indexes key job) :
    Indexed (e :: past) e.after := by
  constructor
  · intro k id member
    rw [grantedIds_of_kept granted] at member
    have known := indexed.owner member
    rcases owners with same | ⟨key, job, carried, owners⟩
    · rw [same, known]
    · rw [owners]
      split
      · rename_i own
        rw [carried] at own
        exact (indexed.owner own).symm.trans known
      · exact known
  · intro k
    rw [grantedIds_of_kept granted]
    exact (indexed.accepted k).trans accepted.sublist

theorem Indexed.step (indexed : Indexed past e.before) (step : TryJobStep e)
    (carried : ∀ key, e.before.store.idsOf key = grantedIds key past)
    (fresh : e.after.acceptedIds.Nodup) : Indexed (e :: past) e.after := by
  have extended := step.acceptedIds_prefix
  cases step with
  | idle jobs accepted granted ended owners => exact indexed.of_kept granted extended (.inl owners)
  | claimed abandoned claimed jobs granted ended accepted owners =>
    exact indexed.of_kept granted extended (.inl owners)
  | refused claimed jobs accepted granted ended owners =>
    refine indexed.of_kept granted extended (.inr ⟨_, _, ?_, owners⟩)
    exact (Store.claimable?_tryJobIds claimed).trans (carried _)
  | @followed key _ status now job stored awaits jobs accepted granted ended owners =>
    refine indexed.of_kept granted extended (.inr ⟨_, _, ?_, owners⟩)
    rw [TryJob.follow_tryJobIds, ← carried]
    unfold Store.idsOf
    rw [stored]
    rfl
  | @accepted key range suspects now staleAfter claim new claimed jobs accepted granted ended
      owners =>
    have ids : ((askedFor e.services claim range suspects).accepted new).tryJobIds =
        grantedIds key past ++ [new] := by
      rw [← carried, ← Store.claimable?_tryJobIds claimed]
      rfl
    have unknown : new ∉ e.before.acceptedIds := by
      rw [accepted] at fresh
      have apart := (List.nodup_append.mp fresh).2.2
      exact fun known => apart new known new (List.mem_singleton_self new) rfl
    constructor
    · intro k id member
      rw [owners]
      simp only [ids, List.mem_append, List.mem_singleton]
      rw [grantedIds, granted, List.mem_append] at member
      rcases member with member | member
      · -- What was brought before is not the new identifier, and keeps its key.
        have other : id ≠ new := fun same => unknown (same ▸ (indexed.accepted k).mem member)
        have known := indexed.owner member
        split
        · rename_i own
          exact (indexed.owner (own.resolve_right other)).symm.trans known
        · exact known
      · split at member
        · rename_i same
          rw [if_pos (.inr (List.mem_singleton.mp member)), same]
        · cases member
    · intro k
      rw [grantedIds, granted, accepted]
      split
      · exact (indexed.accepted k).append (.refl _)
      · rw [List.append_nil]
        exact (indexed.accepted k).trans (List.sublist_append_left ..)

theorem Run.indexed {admits : Episode → Prop} (run : Run admits past s)
    (works : ∀ e, admits e → e.call.isAnalysis → e.services.StoreWorks)
    (fresh : s.acceptedIds.Nodup) : Indexed past s := by
  induction run with
  | start => exact ⟨nofun, fun _ => .refl _⟩
  | step run admitted indexed =>
    have keyed := run.keyed works
    have step := (Episode.course keyed (works _ admitted)).tryJobStep keyed
    have known := fresh.sublist step.acceptedIds_prefix.sublist
    exact (indexed known).step step (run.idsOf works) fresh

/-- Whether a build that an earlier attempt asked for counts as the build of the current attempt:
that attempt is not over, the scheduler has given no identifier for it yet, and the build is the
latest of the earlier attempts. -/
def TakenForCurrent (past : List Episode) (job : TryJob) (id : String) : Prop :=
  job.status.isTerminal = false ∧ idsSinceClaim job.key past = [] ∧
    (idsBeforeClaim job.key past).getLast? = some id

instance (past : List Episode) (job : TryJob) (id : String) :
    Decidable (TakenForCurrent past job id) := inferInstanceAs (Decidable (_ ∧ _ ∧ _))

theorem getLast?_append_of_nodup {α : Type} {xs ys : List α} {a : α}
    (distinct : (xs ++ ys).Nodup) (member : a ∈ xs) :
    (xs ++ ys).getLast? = some a ↔ ys = [] ∧ xs.getLast? = some a := by
  cases last : ys.getLast? with
  | none => simp [List.getLast?_eq_none_iff.mp last]
  | some b =>
    have later : b ∈ ys := List.mem_of_getLast? last
    have apart : b ≠ a := fun same => (List.nodup_append.mp distinct).2.2 a member b later same.symm
    have nonempty : ys ≠ [] := List.ne_nil_of_mem later
    simp [List.getLast?_append, last, apart, nonempty]

theorem Run.awaits_earlier_iff (run : Run Episode.Bisects past s) (fresh : s.acceptedIds.Nodup)
    (stored : s.store.tryJob? key = some job) (earlier : id ∈ idsBeforeClaim key past) :
    job.awaits id = true ↔ TakenForCurrent past job id := by
  have works : ∀ e : Episode, e.Bisects → e.call.isAnalysis → e.services.StoreWorks :=
    fun e bisects about => nomatch bisects.symm.trans about
  have sameKey := (run.keyed works).tryJob stored
  have carried : job.tryJobIds = idsBeforeClaim key past ++ idsSinceClaim key past := by
    rw [idsBeforeClaim_append, ← run.idsOf works]
    unfold Store.idsOf
    rw [stored]
    rfl
  have distinct : (idsBeforeClaim key past ++ idsSinceClaim key past).Nodup := by
    rw [idsBeforeClaim_append]
    exact fresh.sublist ((run.indexed works fresh).accepted key)
  unfold TakenForCurrent
  rw [TryJob.awaits_iff, carried, sameKey, getLast?_append_of_nodup distinct earlier]

/-- The status of a build that an earlier attempt asked for is ignored, and changes nothing, unless
the build counts as that of the current attempt. Then the try job takes it. -/
theorem Run.earlier_status_ignored_iff (run : Run Episode.Bisects past s)
    (fresh : s.acceptedIds.Nodup) (stored : s.store.tryJob? key = some job)
    (earlier : id ∈ idsBeforeClaim key past) (services : Services)
    (works : services.StoreWorks) (status : ExternalStatus) (now : Instant) :
    let run := (updateTryJob services id status now).runOn s
    (run = (.ok (.ignored job), s) ↔ ¬ TakenForCurrent past job id) ∧
      (TakenForCurrent past job id → run.1 = .ok (.updated (job.follow now status)) ∧
        run.2.store.tryJob? key = some (job.follow now status)) := by
  have known : ∀ e : Episode, e.Bisects → e.call.isAnalysis → e.services.StoreWorks :=
    fun e bisects about => nomatch bisects.symm.trans about
  have keyed := run.keyed known
  have awaits := run.awaits_earlier_iff fresh stored earlier
  have granted : id ∈ grantedIds key past := by
    rw [← idsBeforeClaim_append]
    exact List.mem_append_left _ earlier
  have found : s.store.tryJobWithId? id = some job :=
    Store.tryJobWithId?_eq_some.mpr ⟨key, (run.indexed known fresh).owner granted, stored⟩
  have following := updateTryJob_runOn services keyed id status now
  dsimp only at following ⊢
  generalize (updateTryJob services id status now).runOn s = result at following ⊢
  obtain ⟨r, after⟩ := result
  cases following with
  | unread fault => cases (works _).symm.trans fault
  | unrecorded fault => cases (works _).symm.trans fault
  | unknown missing => cases missing.symm.trans found
  | ignored found' finished =>
    cases found.symm.trans found'
    have free : ¬ TakenForCurrent past job id := fun taken =>
      nomatch finished.symm.trans (awaits.mpr taken)
    exact ⟨⟨fun _ => free, fun _ => rfl⟩, fun taken => absurd taken free⟩
  | updated found' taken sameStore =>
    cases found.symm.trans found'
    have taken := awaits.mp taken
    refine ⟨⟨fun same => ?_, fun free => absurd taken free⟩, fun _ => ⟨rfl, ?_⟩⟩
    · cases congrArg Prod.fst same
    · refine (Store.tryJob?_withTryJob ..).trans (if_pos ?_)
      rw [TryJob.follow_key, keyed.tryJob stored]

namespace Abandoned

theorem running_by_first_build :
    let run := (updateTryJob (.giving "8000002") "8000001" (.started none) ⟨240, 0⟩).runOn
      claimed.after
    "8000001" ∈ idsBeforeClaim brokenCompile calls ∧ abandoned.attempt = 2 ∧
      run.2.store.tryJob? brokenCompile =
        some { abandoned with status := .running, startedAt := some ⟨240, 0⟩ } := by
  have fresh : claimed.after.acceptedIds.Nodup := by decide +kernel
  have stored : claimed.after.store.tryJob? brokenCompile = some abandoned := by decide +kernel
  have earlier : "8000001" ∈ idsBeforeClaim brokenCompile calls := by decide +kernel
  have taken : TakenForCurrent calls abandoned "8000001" := by decide +kernel
  have status := Run.earlier_status_ignored_iff run fresh stored earlier (.giving "8000002")
    (Services.giving_works _) (.started none) ⟨240, 0⟩
  exact ⟨earlier, rfl, (status.2 taken).2⟩

end Abandoned

end CulpritFinding
