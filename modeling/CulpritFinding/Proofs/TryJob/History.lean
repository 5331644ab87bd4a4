import CulpritFinding.Proofs.TryJob.Step

namespace CulpritFinding

/-- The identifiers that a run brought for the try job under a key, earliest first. -/
def grantedIds (key : FailureKey) : List Episode → List String
  | [] => []
  | e :: past => grantedIds key past ++ e.granted key

def endedIds : List Episode → List String
  | [] => []
  | e :: past => e.ended?.toList ++ endedIds past

/-- The identifiers of a try job whose builds have not come to their end. -/
def outstandingIds (key : FailureKey) (past : List Episode) : List String :=
  (grantedIds key past).filter (· ∉ endedIds past)

variable {e : Episode} {key : FailureKey} {now : Instant} {s : EngineState} {past : List Episode}

def Store.idsOf (s : Store) (key : FailureKey) : List String :=
  ((s.tryJob? key).map (·.tryJobIds)).getD []

theorem Store.claimable?_tryJobIds {s : Store} {staleAfter : Span} {claim : TryJob}
    (claimed : s.claimable? key now staleAfter = some claim) :
    claim.tryJobIds = s.idsOf key := by
  unfold idsOf
  rcases claimable?_cases claimed with ⟨absent, rfl⟩ | ⟨former, stored, -, -, rfl⟩
  · rw [absent]
    rfl
  · rw [stored]
    rfl

theorem Episode.Writes.idsOf {job : TryJob} (jobs : e.Writes key job)
    (own : job.tryJobIds = e.before.store.idsOf key ++ e.granted key)
    (others : ∀ k, key ≠ k → e.granted k = []) (k : FailureKey) :
    e.after.store.idsOf k = e.before.store.idsOf k ++ e.granted k := by
  by_cases same : key = k
  · subst k
    rw [← own]
    unfold Store.idsOf
    rw [jobs, if_pos rfl]
    rfl
  · unfold Store.idsOf
    rw [jobs, if_neg same, others k same, List.append_nil]

theorem TryJobStep.idsOf (step : TryJobStep e) (k : FailureKey) :
    e.after.store.idsOf k = e.before.store.idsOf k ++ e.granted k := by
  cases step with
  | idle jobs accepted granted =>
    unfold Store.idsOf
    rw [jobs, granted, List.append_nil]
  | claimed abandoned claimed jobs granted =>
    refine jobs.idsOf ?_ (fun k _ => granted k) k
    rw [granted, List.append_nil, Store.claimable?_tryJobIds claimed]
  | accepted claimed jobs accepted granted =>
    refine jobs.idsOf ?_ (fun k other => (granted k).trans (if_neg other)) k
    rw [granted, if_pos rfl, ← Store.claimable?_tryJobIds claimed]
    rfl
  | refused claimed jobs accepted granted =>
    refine jobs.idsOf ?_ (fun k _ => granted k) k
    rw [granted, List.append_nil, ← Store.claimable?_tryJobIds claimed]
    rfl
  | @followed key _ status now job stored awaits jobs accepted granted =>
    refine jobs.idsOf ?_ (fun k _ => granted k) k
    rw [granted, List.append_nil, TryJob.follow_tryJobIds]
    unfold Store.idsOf
    rw [stored]
    rfl

/-- A try job carries exactly the identifiers that a run brought for it. -/
theorem Run.idsOf {admits : Episode → Prop} {past : List Episode} (run : Run admits past s)
    (works : ∀ e, admits e → e.call.isAnalysis → e.services.StoreWorks) (key : FailureKey) :
    s.store.idsOf key = grantedIds key past := by
  induction run with
  | start => rfl
  | step run admitted carried =>
    have keyed := run.keyed works
    have step := (Episode.course keyed (works _ admitted)).tryJobStep keyed
    rw [step.idsOf, carried]
    rfl

/-- A try job that has gone on from another: nothing that was recorded is lost. -/
structure TryJob.Extends (former later : TryJob) : Prop where
  tryJobIds : former.tryJobIds <+: later.tryJobIds
  reports : former.reports <+: later.reports

theorem TryJob.Extends.refl (j : TryJob) : j.Extends j := ⟨List.prefix_rfl, List.prefix_rfl⟩

theorem TryJob.Extends.trans {j j' j'' : TryJob} (first : j.Extends j') (second : j'.Extends j'') :
    j.Extends j'' :=
  ⟨first.tryJobIds.trans second.tryJobIds, first.reports.trans second.reports⟩

theorem TryJob.extends_follow (j : TryJob) (status : ExternalStatus) :
    j.Extends (j.follow now status) where
  tryJobIds := by simp only [follow_tryJobIds, List.prefix_rfl]
  reports := by simp only [follow_reports, List.prefix_append]

theorem Store.claimable?_extends {s : Store} {staleAfter : Span} {former claim : TryJob}
    (claimed : s.claimable? key now staleAfter = some claim)
    (stored : s.tryJob? key = some former) :
    former.Extends claim := by
  rcases claimable?_cases claimed with ⟨absent, -⟩ | ⟨found, present, -, -, rfl⟩
  · rw [absent] at stored
    cases stored
  · rw [present] at stored
    cases stored
    exact ⟨List.prefix_rfl, List.prefix_rfl⟩

theorem TryJobStep.extends (step : TryJobStep e) {job : TryJob}
    (stored : e.before.store.tryJob? key = some job) :
    ∃ later, e.after.store.tryJob? key = some later ∧ job.Extends later := by
  have written : ∀ {k : FailureKey} {later : TryJob}, e.Writes k later →
      (k = key → job.Extends later) →
      ∃ later, e.after.store.tryJob? key = some later ∧ job.Extends later := by
    intro k later jobs extends_
    rw [jobs]
    split
    · exact ⟨later, rfl, extends_ ‹_›⟩
    · exact ⟨job, stored, .refl job⟩
  cases step with
  | idle jobs => exact ⟨job, (jobs key).trans stored, .refl job⟩
  | claimed abandoned claimed jobs =>
    apply written jobs
    rintro rfl
    exact Store.claimable?_extends claimed stored
  | accepted claimed jobs =>
    apply written jobs
    rintro rfl
    have former := Store.claimable?_extends claimed stored
    exact former.trans ⟨List.prefix_append .., List.prefix_rfl⟩
  | refused claimed jobs =>
    apply written jobs
    rintro rfl
    have former := Store.claimable?_extends claimed stored
    exact former.trans ⟨List.prefix_rfl, List.prefix_rfl⟩
  | followed found awaits jobs =>
    apply written jobs
    rintro rfl
    rw [found] at stored
    cases stored
    exact TryJob.extends_follow ..

theorem Run.extends {admits : Episode → Prop} (run : Run admits past s)
    (works : ∀ e, admits e → e.call.isAnalysis → e.services.StoreWorks) (member : e ∈ past)
    {job : TryJob} (stored : e.before.store.tryJob? key = some job) :
    ∃ later, s.store.tryJob? key = some later ∧ job.Extends later := by
  induction run with
  | start => cases member
  | @step past latest run admitted extended =>
    have keyed := run.keyed works
    have step := (Episode.course keyed (works _ admitted)).tryJobStep keyed
    rcases List.mem_cons.mp member with rfl | earlier
    · exact step.extends stored
    · obtain ⟨middle, stored, first⟩ := extended earlier
      obtain ⟨later, stored, second⟩ := step.extends stored
      exact ⟨later, stored, first.trans second⟩

end CulpritFinding
