import CulpritFinding.Proofs.Group.Founding
import CulpritFinding.Proofs.Keeps
import CulpritFinding.Proofs.Run

namespace CulpritFinding

open Engine

variable {services : Services} {request : AnalysisRequest} {kept : Store → Prop}

structure Engine.Saves (services : Services) (kept : Store → Prop) (fit : Analysis → Prop) :
    Prop where
  save : ∀ {a}, fit a → (updateAnalysis services a).Keeps kept
  moved : ∀ {a}, fit a → ∀ event, fit (a.after event)

theorem Analysis.withTryJob_of_after {fit : Analysis → Prop}
    (moved : ∀ {a}, fit a → ∀ event, fit (a.after event)) {a : Analysis} (fits : fit a)
    (job : TryJob) : fit (a.withTryJob job) := by
  unfold withTryJob
  cases job.tryJobIds.getLast? with
  | some id =>
    dsimp only
    split
    · exact moved (moved fits _) _
    · exact moved fits _
  | none =>
    dsimp only
    split
    · exact moved fits _
    · exact fits

section

variable {fit : Analysis → Prop}
  (saves : Engine.Saves services kept fit)
  (schedule : ∀ range suspects now,
    (scheduleTryJob services request.key range suspects now).Keeps kept)

include saves schedule

theorem startTryJob_keeps {a : Analysis} (fits : fit a) (range : TryJobRange) :
    (startTryJob services request a range).Keeps kept := by
  refine Keeps.bind ⟨fun s ok => ?_⟩ fun r => ?_
  · rw [runOn_lift]
    exact (schedule ..).runOn s ok
  · split
    · exact (saves.save (Analysis.withTryJob_of_after saves.moved fits _)).bind fun _ =>
        keeps_pure _
    · exact keeps_throw _
    · exact (saves.save (saves.moved fits _)).bind fun _ => keeps_throw _

theorem verifyFailure_keeps {a : Analysis} (fits : fit a) (build : Build) (range : RegressionRange)
    (signals : FailureSignals) (membership : Option GroupMembership) :
    (verifyFailure services request a build range signals membership).Keeps kept := by
  have evaluated := saves.moved fits
  unfold verifyFailure
  dsimp only
  split
  · exact (saves.save (evaluated _)).bind fun _ => keeps_pure _
  · split
    · exact startTryJob_keeps saves schedule (evaluated _) _
    · exact (saves.save (saves.moved (evaluated _) _)).bind fun _ => keeps_pure _

end

theorem GroupingRequest.run_keepsRecords (r : GroupingRequest) (services : Services) :
    (r.run services).KeepsRecords :=
  findOrCreateGroup_keepsRecords services r.freshId r.build r.kind r.signature r.window r.now

/-- A property of stores that every write of an analysis keeps, where the analyses that it saves
are in phases that their results allow. -/
structure Engine.Lasts (services : Services) (kept : Store → Prop)
    (allowed : TryJobPhase → Option AnalysisResult → Prop) : Prop where
  fresh : allowed .notNeeded none
  resolved : ∀ phase result, allowed phase (some result)
  stored : ∀ {s : Store} {key a}, kept s → s.analysis? key = some a →
    allowed a.tryJobPhase a.result
  save : ∀ {a : Analysis}, allowed a.tryJobPhase a.result →
    ∀ s : EngineState, kept s.store → kept (s.withAnalysis a).store
  group : ∀ r : GroupingRequest, (r.run services).Keeps kept
  schedule : ∀ key range suspects now, (scheduleTryJob services key range suspects now).Keeps kept

section

variable {allowed : TryJobPhase → Option AnalysisResult → Prop}
  (lasts : Engine.Lasts services kept allowed)

include lasts

theorem Engine.Lasts.update {a : Analysis} (fits : allowed a.tryJobPhase a.result) :
    (updateAnalysis services a).Keeps kept :=
  keeps_updateAnalysis (lasts.save fits)

theorem finishAnalysis_keeps {a : Analysis} (fits : allowed a.tryJobPhase a.result)
    (outcome : String) : (finishAnalysis services a outcome).Keeps kept :=
  (lasts.update fits).bind fun _ => keeps_record _

theorem orAbort_keeps {α : Type} {a : Analysis} (fits : allowed a.tryJobPhase a.result)
    (now : Instant) (r : Except AnalysisError α) : (orAbort services a now r).Keeps kept := by
  cases r with
  | ok v => exact keeps_pure v
  | error e =>
    unfold orAbort
    split
    · exact keeps_pure _
    · exact keeps_throw _
    · refine Keeps.bind ?_ fun _ => (keeps_record _).bind fun _ => keeps_throw _
      exact Keeps.tryCatch (lasts.update fits) fun _ => keeps_pure _

theorem groupFailure_keeps (build : Build) (range : RegressionRange) (signals : FailureSignals) :
    (groupFailure services request build range signals).Keeps kept := by
  unfold groupFailure
  split
  · exact keeps_pure _
  · refine Keeps.tryCatch (lasts.group ⟨⟨_, _, _, _⟩, _, _⟩) fun e => ?_
    split
    · exact keeps_throw _
    · exact keeps_pure _

theorem Engine.Lasts.saves : Engine.Saves services kept fun a => a.result.isSome := by
  refine ⟨fun {a} resolved => lasts.update ?_, fun resolved _ => resolved⟩
  obtain ⟨result, known⟩ := Option.isSome_iff_exists.mp resolved
  exact known ▸ lasts.resolved _ result

theorem concludeSteps_keeps {a : Analysis} (fits : allowed a.tryJobPhase a.result) (build : Build)
    (range : RegressionRange) (signals : FailureSignals) (membership : Option GroupMembership) :
    (concludeSteps services request a build range signals membership).Keeps kept := by
  unfold concludeSteps
  dsimp only
  cases known : a.hasVerdict with
  | true =>
    have carried : a.heuristicResult = a.result := by
      unfold Analysis.heuristicResult
      rw [known, if_pos rfl]
    refine (finishAnalysis_keeps lasts (by exact carried ▸ fits) _).bind fun _ => ?_
    split
    · exact (keeps_read ..).bind fun _ => keeps_pure _
    · exact absurd known ‹_›
  | false =>
    have found : a.heuristicResult = some (if a.suspects.isEmpty then .notFound else .found) := by
      unfold Analysis.heuristicResult
      rw [known, if_neg Bool.false_ne_true]
    refine (finishAnalysis_keeps lasts (by exact found ▸ lasts.resolved _ _) _).bind fun _ => ?_
    split
    · exact (keeps_read ..).bind fun _ => keeps_pure _
    · exact verifyFailure_keeps lasts.saves (lasts.schedule request.key) (by exact found ▸ rfl) ..

theorem analyzeRange_keeps {a : Analysis} (fits : allowed a.tryJobPhase a.result) (build : Build)
    (range : RegressionRange) : (analyzeRange services request a build range).Keeps kept := by
  unfold analyzeRange
  dsimp only
  have fits : allowed ({ a with failedSteps := range.failedSteps }).tryJobPhase
      ({ a with failedSteps := range.failedSteps }).result := fits
  generalize { a with failedSteps := range.failedSteps } = walked at fits ⊢
  refine (lasts.update fits).bind fun _ => ?_
  refine (orAbort_keeps lasts fits ..).bind fun scored => (keeps_record _).bind fun _ => ?_
  refine (groupFailure_keeps lasts ..).bind fun membership => ?_
  have record := Analysis.withGroup_verdictRecord (walked.withSuspects scored) membership
  refine concludeSteps_keeps lasts ?_ build range _ membership
  have phase := congrArg VerdictRecord.tryJobPhase record
  have result := congrArg VerdictRecord.result record
  dsimp only [Analysis.verdictRecord] at phase result
  rw [phase, result]
  exact fits

theorem analyzeSteps_keeps {a : Analysis} (fits : allowed a.tryJobPhase a.result) (build : Build)
    (steps : List FailedStep) : (analyzeSteps services request a build steps).Keeps kept := by
  unfold analyzeSteps
  split
  · exact keeps_throw _
  · exact analyzeRange_keeps lasts fits ..

theorem Engine.Lasts.begun {s : Store} (ok : kept s) (key : FailureKey) (now : Instant) :
    let a := Analysis.begun key (s.analysis? key) now
    allowed a.tryJobPhase a.result := by
  unfold Analysis.begun
  cases stored : s.analysis? key with
  | none => exact lasts.fresh
  | some previous =>
    have fits := lasts.stored ok stored
    dsimp only
    split
    · exact fits
    · exact lasts.fresh

theorem analyzeFailure_keeps (request : AnalysisRequest) :
    (analyzeFailure services request).Keeps kept := by
  unfold analyzeFailure beginAnalysis
  rw [bind_assoc]
  refine keeps_read_bind _ fun store ok => ?_
  have fits := lasts.begun ok request.key request.start
  dsimp only at fits
  rw [bind_assoc]
  refine (keeps_saveAnalysis (lasts.save fits)).bind fun _ => ?_
  rw [pure_bind]
  refine (orAbort_keeps lasts fits ..).bind fun build => ?_
  dsimp only
  split
  · have nothing := lasts.resolved
      (Analysis.begun request.key (store.analysis? request.key) request.start).tryJobPhase
    exact (finishAnalysis_keeps lasts (by exact nothing _) _).bind fun _ => keeps_pure _
  · exact analyzeSteps_keeps lasts fits ..

end

theorem followTryJob_keeps {tryJobId : String} {status : ExternalStatus} {now : Instant}
    (update : (CulpritFinding.updateTryJob services tryJobId status now).Keeps kept)
    (save : ∀ {s : Store} {key a}, kept s → s.analysis? key = some a → ∀ job,
      (updateAnalysis services (a.follow job now)).Keeps kept) :
    (followTryJob services tryJobId status now).Keeps kept := by
  refine update.bind fun update => ?_
  cases update with
  | ignored job => exact keeps_pure _
  | updated job =>
    refine keeps_read_bind _ fun s ok => ?_
    cases stored : s.analysis? job.key with
    | none => exact keeps_pure _
    | some a =>
      have saved := (save ok stored job).bind fun _ => keeps_pure (α := FollowUp)
        ⟨.updated job, if job.status = .completed then some job.verdict else none,
          some (a.follow job now)⟩
      dsimp only
      cases job.hasReport with
      | false => exact saved
      | true =>
        refine Keeps.bind ?_ fun _ => saved
        split
        · exact keeps_record _
        · exact keeps_pure _

theorem pollTryJob_keeps {tryJobId : String} {now : Instant}
    (follow : ∀ status, (followTryJob services tryJobId status now).Keeps kept) :
    (pollTryJob services tryJobId now).Keeps kept := by
  unfold pollTryJob
  cases services.scheduler.status tryJobId with
  | ok status => exact follow status
  | error e => exact keeps_throw _

/-- What every operation of the engine keeps, whatever its services answer. -/
structure Call.Kept (kept : Store → Prop) : Prop where
  schedule : ∀ services key range suspects now,
    (scheduleTryJob services key range suspects now).Keeps kept
  update : ∀ services tryJobId status now,
    (CulpritFinding.updateTryJob services tryJobId status now).Keeps kept
  claim : ∀ services key now staleAfter, (claimTryJob services key now staleAfter).Keeps kept
  analyze : ∀ services request, (analyzeFailure services request).Keeps kept
  follow : ∀ services tryJobId status now, (followTryJob services tryJobId status now).Keeps kept

theorem Call.Kept.run (ok : Call.Kept kept) (services : Services) (call : Call) :
    (call.run services).Keeps kept := by
  cases call with
  | schedule => exact (ok.schedule ..).map _
  | update => exact (ok.update ..).map _
  | claim => exact (ok.claim ..).map _
  | analyze => exact (ok.analyze ..).map _
  | follow => exact (ok.follow ..).map _
  | poll => exact (pollTryJob_keeps fun _ => ok.follow ..).map _

theorem Run.keeps (ok : Call.Kept kept) (start : kept .empty) {admits : Episode → Prop}
    {past : List Episode} {s : EngineState} (run : Run admits past s) : kept s.store := by
  induction run with
  | start => exact start
  | @step past e run admitted before => exact (ok.run e.services e.call).runOn e.before before

end CulpritFinding
