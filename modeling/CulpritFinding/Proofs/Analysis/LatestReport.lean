import CulpritFinding.Proofs.Sound

namespace CulpritFinding

namespace Verdict

def isInconclusive : Verdict → Bool
  | inconclusive _ => true
  | _ => false

def onReport (kind : FailureKind) (range : TryJobRange) : Option TryJobReport → Verdict
  | some report => identifyCulprit kind report range
  | none => inconclusive "try job finished without a report"

/-- Whether a verdict is one on the report of a build, or on none if the build brought none. -/
def RestsOn (v : Verdict) (kind : FailureKind) (range : TryJobRange) :
    (report : Option TryJobReport) → Prop
  | some report => v = identifyCulprit kind report range
  | none => v.isInconclusive = true

end Verdict

namespace TryJob

theorem verdict_of_range {j : TryJob} {range : TryJobRange} (ranged : j.range = some range) :
    j.verdict = .onReport j.key.kind range j.latestReport? := by
  unfold verdict Verdict.onReport
  rw [ranged]
  cases j.latestReport? <;> rfl

theorem latestReport?_follow_completed (j : TryJob) (now : Instant) (result : ExternalResult)
    (report : Option TryJobReport) (endTime : Option Instant) :
    (j.follow now (.completed result report endTime)).latestReport? =
      report.or j.latestReport? := by
  unfold latestReport?
  rw [follow_reports]
  cases report <;> simp [List.getLast?_append]

end TryJob

variable {admits : Episode → Prop} {past : List Episode} {s : EngineState} {services : Services}
  {id : String} {report : Option TryJobReport} {endTime : Option Instant} {now : Instant}
  {job : TryJob} {verdict : Option Verdict} {a : Analysis}

/-- A build that succeeds is ruled on by its own report, or by the latest report of the earlier
attempts if it brings none. So the verdict is not its own exactly where it brings no report, and
one of an earlier attempt is conclusive. -/
theorem Run.verdict_on_latest_report (run : Run admits past s)
    (answered : ((followTryJob services id (.completed .success report endTime) now).runOn s).1 =
      .ok ⟨.updated job, verdict, some a⟩) :
    ∃ former range v, s.store.tryJobWithId? id = some former ∧ former.key = job.key ∧
      job.range = some range ∧ verdict = some v ∧
      v = .onReport job.key.kind range (report.or former.latestReport?) ∧
      (v.RestsOn job.key.kind range report ↔ report = none → ∀ stale ∈ former.latestReport?,
        (identifyCulprit job.key.kind stale range).isInconclusive = true) := by
  have sound := run.sound
  have course := followTryJob_course services sound.toKeyed id (.completed .success report endTime)
    now
  dsimp only at course
  generalize (followTryJob services id (.completed .success report endTime) now).runOn s = result
    at answered course
  obtain ⟨r, after⟩ := result
  dsimp only at answered course
  subst r
  cases course with
  | ended ending =>
    cases ending with
    | moved following stored saved =>
      cases following with
      | @updated former measured found awaits =>
        obtain ⟨key, -, stored⟩ := Store.tryJobWithId?_eq_some.mp found
        have triggered : former.tryJobIds ≠ [] := by
          have last := (TryJob.awaits_iff.mp awaits).2
          rintro none_
          simp [none_] at last
        obtain ⟨range, ranged⟩ := Option.isSome_iff_exists.mp (sound.ranged stored triggered)
        have sameKey := former.follow_key now (.completed .success report endTime)
        have sameRange :=
          (former.follow_range now (.completed .success report endTime)).trans ranged
        refine ⟨former, range, _, found, sameKey.symm, sameRange, if_pos rfl, ?_, ?_⟩
        · rw [TryJob.verdict_of_range sameRange, TryJob.latestReport?_follow_completed]
        · rw [TryJob.verdict_of_range sameRange, TryJob.latestReport?_follow_completed]
          cases report with
          | some own => simp [Verdict.RestsOn, Verdict.onReport]
          | none =>
            cases left : former.latestReport? with
            | none => simp [Verdict.RestsOn, Verdict.onReport, Verdict.isInconclusive]
            | some stale => simp [Verdict.RestsOn, Verdict.onReport]

namespace Relapsed

def first : Episode := ⟨.recalling "8000001", .analyze (brokenRequest 0), .initial⟩

def failed : Episode :=
  ⟨.recalling "8000001", .follow "8000001" (.completed .failure (some blaming) none) ⟨60, 0⟩,
    first.after⟩

def second : Episode := ⟨.recalling "8000002", .analyze (brokenRequest 120), failed.after⟩

theorem run : Run (·.call.isAnalysis = true) [second, failed, first] second.after := by
  refine .step (.step (.step .start ?_) ?_) ?_ <;> rfl

def ended : TryJob :=
  { TryJob.new brokenCompile ⟨120, 0⟩ with
    attempt := 2, status := .completed, tryJobIds := ["8000001", "8000002"],
    range := some brokenRange, reports := [blaming], completedAt := some ⟨180, 0⟩,
    elapsedSeconds := some 60 }

theorem ruled_without_own_report :
    ∃ v a, ((followTryJob (.recalling "8000002") "8000002" (.completed .success none none)
        ⟨180, 0⟩).runOn second.after).1 = .ok ⟨.updated ended, some v, some a⟩ ∧
      v = identifyCulprit .compile blaming brokenRange ∧ ¬ v.RestsOn .compile brokenRange none := by
  have told : ((followTryJob (.recalling "8000002") "8000002" (.completed .success none none)
      ⟨180, 0⟩).runOn second.after).1.toOption.map (fun f => (f.update, f.analysis.isSome)) =
        some (.updated ended, true) := by decide +kernel
  have left : (second.after.store.tryJobWithId? "8000002").bind (·.latestReport?) =
      some blaming := by decide +kernel
  generalize result : ((followTryJob (.recalling "8000002") "8000002"
    (.completed .success none none) ⟨180, 0⟩).runOn second.after).1 = answer at told ⊢
  rcases answer with _ | ⟨_, verdict, _ | a⟩ <;> cases told
  obtain ⟨former, range, v, found, sameKey, ranged, rfl, rests, exact⟩ :=
    Run.verdict_on_latest_report run result
  cases ranged
  rw [found, Option.bind_some] at left
  rw [left] at rests exact
  refine ⟨v, a, rfl, rests, fun own => ?_⟩
  cases exact.mp own rfl blaming rfl

end Relapsed

end CulpritFinding
