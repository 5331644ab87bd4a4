import CulpritFinding.Proofs.Analysis.Stages

namespace CulpritFinding

structure Store.Sound (s : Store) : Prop extends s.Keyed where
  ranged : ∀ {key job}, s.tryJob? key = some job → job.tryJobIds ≠ [] → job.range.isSome

namespace Store.Sound

variable {s s' : Store} {key : FailureKey} {job : TryJob}

theorem of_sameTryJobs (sound : s.Sound) (keyed : s'.Keyed) (same : s'.tryJobs = s.tryJobs) :
    s'.Sound where
  toKeyed := keyed
  ranged := by
    intro key job stored
    unfold tryJob? at stored
    rw [same] at stored
    exact sound.ranged stored

theorem of_sameRecords {s s' : EngineState} (sound : s.store.Sound) (same : s.SameRecords s') :
    s'.store.Sound :=
  sound.of_sameTryJobs (same.keyed sound.toKeyed) same.tryJobs

theorem of_write (sound : s.Sound) (keyed : s'.Keyed)
    (ranged : job.tryJobIds ≠ [] → job.range.isSome)
    (write : ∀ k, s'.tryJob? k = if key = k then some job else s.tryJob? k) : s'.Sound where
  toKeyed := keyed
  ranged := by
    intro k found stored
    rw [write] at stored
    split at stored
    · cases stored
      exact ranged
    · exact sound.ranged stored

theorem claim_ranged (sound : s.Sound) {now : Instant} {staleAfter : Span} {claim : TryJob}
    (claimed : s.claimable? key now staleAfter = some claim) :
    claim.tryJobIds ≠ [] → claim.range.isSome := by
  rcases claimable?_cases claimed with ⟨-, rfl⟩ | ⟨former, stored, -, -, rfl⟩
  · exact fun triggered => absurd rfl triggered
  · exact (sound.ranged stored :)

end Store.Sound

theorem TryJob.follow_range (j : TryJob) (now : Instant) (status : ExternalStatus) :
    (j.follow now status).range = j.range := by
  cases status with
  | completed result => cases result <;> rfl
  | _ => rfl

theorem Scheduling.sound {services : Services} {key : FailureKey} {range : TryJobRange}
    {suspects : List Suspect} {now : Instant} {s s' : EngineState}
    {r : Except AnalysisError TryJob}
    (scheduling : Scheduling services key range suspects now s r s') (sound : s.store.Sound) :
    s'.store.Sound := by
  have keyed := scheduling.keyed sound.toKeyed
  cases scheduling with
  | outOfRange => exact sound
  | unclaimed => exact sound
  | inFlight => exact sound
  | unrecorded fault timeout claimed =>
    exact sound.of_write keyed (sound.claim_ranged claimed) fun k => Store.tryJob?_withClaim ..
  | accepted timeout claimed =>
    have sameKey := Store.claimable?_key sound.toKeyed claimed
    exact sound.of_write keyed (fun _ => rfl) (tryJob?_after_claim s _ sameKey sameKey)
  | refused timeout claimed =>
    have sameKey := Store.claimable?_key sound.toKeyed claimed
    exact sound.of_write keyed (fun _ => rfl) (tryJob?_after_claim s _ sameKey sameKey)

theorem Following.sound {services : Services} {tryJobId : String} {status : ExternalStatus}
    {now : Instant} {s s' : EngineState} {r : Except AnalysisError TryJobUpdate}
    (following : Following services tryJobId status now s r s') (sound : s.store.Sound) :
    s'.store.Sound := by
  have keyed := following.keyed sound.toKeyed
  cases following with
  | unread => exact sound
  | unknown => exact sound
  | ignored => exact sound
  | unrecorded fault sameStore => exact sameStore ▸ sound
  | @updated job measured found awaits sameStore =>
    obtain ⟨key, -, stored⟩ := Store.tryJobWithId?_eq_some.mp found
    have sound := sameStore ▸ sound
    refine sound.of_write keyed (fun triggered => ?_) fun k => Store.tryJob?_withTryJob ..
    rw [TryJob.follow_tryJobIds] at triggered
    rw [TryJob.follow_range]
    exact sound.ranged (sameStore ▸ stored) triggered

namespace Engine

variable {services : Services}

theorem keepsSound_claimTryJob (key : FailureKey) (now : Instant) (staleAfter : Span) :
    (claimTryJob services key now staleAfter).Keeps Store.Sound := by
  refine ⟨fun s sound => ?_⟩
  rcases runOn_claimTryJob_cases services sound.toKeyed key now staleAfter with
    ⟨claim, answer, claimed, run⟩ | unchanged
  · rw [run]
    exact sound.of_write (sound.toKeyed.withClaim claim) (sound.claim_ranged claimed)
      fun k => Store.tryJob?_withClaim ..
  · rw [unchanged]
    exact sound

end Engine

section

open Engine

variable {services : Services}

theorem scheduleTryJob_keepsSound (services : Services) (key : FailureKey) (range : TryJobRange)
    (suspects : List Suspect) (now : Instant) :
    (scheduleTryJob services key range suspects now).Keeps Store.Sound := by
  refine ⟨fun s sound => ?_⟩
  have scheduling := scheduleTryJob_runOn services sound.toKeyed key range suspects now
  exact scheduling.sound sound

theorem updateTryJob_keepsSound (services : Services) (tryJobId : String)
    (status : ExternalStatus) (now : Instant) :
    (CulpritFinding.updateTryJob services tryJobId status now).Keeps Store.Sound := by
  refine ⟨fun s sound => ?_⟩
  have following := updateTryJob_runOn services sound.toKeyed tryJobId status now
  exact following.sound sound

theorem sound_lasts (services : Services) :
    Engine.Lasts services Store.Sound fun _ _ => True where
  fresh := trivial
  resolved _ _ := trivial
  stored _ _ := trivial
  save _ s sound := sound.of_sameTryJobs (s.withAnalysis_keyed sound.toKeyed _) rfl
  group r := ⟨fun s sound => sound.of_sameRecords (r.run_keepsRecords services s)⟩
  schedule := scheduleTryJob_keepsSound services

theorem followTryJob_keepsSound (services : Services) (tryJobId : String)
    (status : ExternalStatus) (now : Instant) :
    (followTryJob services tryJobId status now).Keeps Store.Sound :=
  followTryJob_keeps (updateTryJob_keepsSound ..) fun _ _ _ => (sound_lasts services).update trivial

theorem sound_kept : Call.Kept Store.Sound where
  schedule := scheduleTryJob_keepsSound
  update := updateTryJob_keepsSound
  claim _ := keepsSound_claimTryJob
  analyze services := analyzeFailure_keeps (sound_lasts services)
  follow := followTryJob_keepsSound

end

theorem Run.sound {admits : Episode → Prop} {past : List Episode} {s : EngineState}
    (run : Run admits past s) : s.store.Sound :=
  run.keeps sound_kept ⟨Store.keyed_empty, nofun⟩

end CulpritFinding
