import CulpritFinding.Proofs.Analysis.FollowUp

namespace CulpritFinding

inductive Call
  | schedule (key : FailureKey) (range : TryJobRange) (suspects : List Suspect) (now : Instant)
  | update (tryJobId : String) (status : ExternalStatus) (now : Instant)
  /-- A claim whose owner never comes to trigger the try job. -/
  | claim (key : FailureKey) (now : Instant) (staleAfter : Span)
  | analyze (request : AnalysisRequest)
  | follow (tryJobId : String) (status : ExternalStatus) (now : Instant)
  | poll (tryJobId : String) (now : Instant)

inductive Answer
  | job (job : TryJob)
  | update (update : TryJobUpdate)
  | claim (claim : TryJobClaim)
  | outcome (outcome : AnalysisOutcome)
  | followUp (followUp : FollowUp)

namespace Call

def run (services : Services) : Call → Engine Answer
  | schedule key range suspects now => .job <$> scheduleTryJob services key range suspects now
  | update tryJobId status now => .update <$> updateTryJob services tryJobId status now
  | claim key now staleAfter => .claim <$> Engine.claimTryJob services key now staleAfter
  | analyze request => .outcome <$> analyzeFailure services request
  | follow tryJobId status now => .followUp <$> followTryJob services tryJobId status now
  | poll tryJobId now => .followUp <$> pollTryJob services tryJobId now

def isClaim : Call → Bool
  | claim _ _ _ => true
  | _ => false

def isAnalysis : Call → Bool
  | analyze _ | follow _ _ _ | poll _ _ => true
  | _ => false

def triggers? : Call → Option FailureKey
  | schedule key _ _ _ => some key
  | analyze request => some request.key
  | _ => none

end Call

structure Episode where
  services : Services
  call : Call
  before : EngineState

namespace Episode

def answer (e : Episode) : Except AnalysisError Answer :=
  ((e.call.run e.services).runOn e.before).1

def after (e : Episode) : EngineState := ((e.call.run e.services).runOn e.before).2

end Episode

/-- A run of admitted calls, the latest first, and the state after it. -/
inductive Run (admits : Episode → Prop) : List Episode → EngineState → Prop
  | start : Run admits [] .initial
  | step {past : List Episode} {e : Episode} (run : Run admits past e.before)
      (admitted : admits e) : Run admits (e :: past) e.after

theorem Run.mono {admits admits' : Episode → Prop} (weaker : ∀ e, admits e → admits' e)
    {past : List Episode} {s : EngineState} (run : Run admits past s) : Run admits' past s := by
  induction run with
  | start => exact .start
  | step run admitted weakened => exact .step weakened (weaker _ admitted)

namespace Episode

def status? (e : Episode) : Option (String × ExternalStatus) :=
  match e.call with
  | .update tryJobId status _ | .follow tryJobId status _ => some (tryJobId, status)
  | .poll tryJobId _ => (e.services.scheduler.status tryJobId).toOption.map (tryJobId, ·)
  | _ => none

def update? (e : Episode) : Option TryJobUpdate :=
  match e.answer with
  | .ok (.update update) => some update
  | .ok (.followUp followUp) => some followUp.update
  | _ => none

def followUp? (e : Episode) : Option FollowUp :=
  match e.answer with
  | .ok (.followUp followUp) => some followUp
  | _ => none

end Episode

inductive Course (e : Episode) : Prop
  | scheduling {key : FailureKey} {range : TryJobRange} {suspects : List Suspect} {now : Instant}
      {r : Except AnalysisError TryJob} (call : e.call = .schedule key range suspects now)
      (answer : e.answer = r.map .job)
      (scheduling : Scheduling e.services key range suspects now e.before r e.after)
  | following {tryJobId : String} {status : ExternalStatus} {now : Instant}
      {r : Except AnalysisError TryJobUpdate} (call : e.call = .update tryJobId status now)
      (answer : e.answer = r.map .update)
      (following : Following e.services tryJobId status now e.before r e.after)
  | claimed {key : FailureKey} {now : Instant} {staleAfter : Span} {claim : TryJob}
      (call : e.call = .claim key now staleAfter)
      (claimed : e.before.store.claimable? key now staleAfter = some claim)
      (after : e.after = e.before.claiming claim)
  | unclaimed {key : FailureKey} {now : Instant} {staleAfter : Span}
      (call : e.call = .claim key now staleAfter) (after : e.after = e.before)
  | ending {request : AnalysisRequest} {r : Except AnalysisError AnalysisOutcome}
      (call : e.call = .analyze request) (answer : e.answer = r.map .outcome)
      (ending : AnalysisEnding e.services request e.before r e.after)
  | followUp {tryJobId : String} {status : ExternalStatus} {now : Instant}
      {r : Except AnalysisError FollowUp} (call : e.call.triggers? = none)
      (told : e.status? = some (tryJobId, status)) (answer : e.answer = r.map .followUp)
      (ending : FollowUpEnding e.services tryJobId status now e.before r e.after)
  | unanswered {tryJobId : String} {now : Instant} {cause : AnalysisError}
      (call : e.call = .poll tryJobId now) (silent : e.status? = none)
      (answer : e.answer = .error cause) (after : e.after = e.before)

theorem Engine.runOn_map {α β : Type} (f : α → β) (x : Engine α) (s : EngineState) :
    (f <$> x).runOn s = ((x.runOn s).1.map f, (x.runOn s).2) := by
  rw [map_eq_pure_bind, runOn_bind]
  rcases x.runOn s with ⟨_ | _, _⟩ <;> rfl

variable {e : Episode}

theorem Course.of_claim (keyed : e.before.store.Keyed) {key : FailureKey} {now : Instant}
    {staleAfter : Span} (call : e.call = .claim key now staleAfter) : Course e := by
  have after : e.after =
      ((Engine.claimTryJob e.services key now staleAfter).runOn e.before).2 := by
    unfold Episode.after
    rw [call, Call.run, Engine.runOn_map]
  rcases Engine.runOn_claimTryJob_cases e.services keyed key now staleAfter with
    ⟨claim, answer, claimed, ran⟩ | unchanged
  · rw [ran] at after
    exact .claimed call claimed after
  · exact .unclaimed call (after.trans unchanged)

theorem Episode.course (keyed : e.before.store.Keyed)
    (works : e.call.isAnalysis → e.services.StoreWorks) : Course e := by
  have answer : e.answer = ((e.call.run e.services).runOn e.before).1 := rfl
  have after : e.after = ((e.call.run e.services).runOn e.before).2 := rfl
  cases call : e.call <;> rw [call] at works <;>
    rw [call, Call.run, Engine.runOn_map] at answer after <;> dsimp only at answer after
  case schedule key range suspects now =>
    have scheduling := scheduleTryJob_runOn e.services keyed key range suspects now
    exact .scheduling call answer (after ▸ scheduling)
  case update tryJobId status now =>
    have following := updateTryJob_runOn e.services keyed tryJobId status now
    exact .following call answer (after ▸ following)
  case claim key now staleAfter => exact .of_claim keyed call
  case analyze request =>
    have ending := analyzeFailure_runOn request (works rfl) fun _ => keyed
    exact .ending call answer (after ▸ ending)
  case follow tryJobId status now =>
    have ending := followTryJob_runOn (works rfl) keyed tryJobId status now
    dsimp only at ending
    have told : e.status? = some (tryJobId, status) := by
      unfold status?
      rw [call]
    exact .followUp (call ▸ rfl) told answer (after ▸ ending)
  case poll tryJobId now =>
    have status? : e.status? =
        (e.services.scheduler.status tryJobId).toOption.map (tryJobId, ·) := by
      unfold status?
      rw [call]
    rcases pollTryJob_runOn (works rfl) keyed tryJobId now with
      ⟨cause, asked, run⟩ | ⟨status, asked, ending⟩ <;> rw [asked] at status?
    · rw [run] at answer after
      exact .unanswered call status? answer after
    · exact .followUp (call ▸ rfl) status? answer (after ▸ ending)

theorem Course.keyed (course : Course e) (keyed : e.before.store.Keyed) :
    e.after.store.Keyed := by
  cases course with
  | scheduling call answer scheduling => exact scheduling.keyed keyed
  | following call answer following => exact following.keyed keyed
  | claimed call claimed after => exact after ▸ keyed.withClaim _
  | unclaimed call after => exact after ▸ keyed
  | ending call answer ending => exact ending.keyed keyed
  | followUp call told answer ending => exact ending.keyed keyed
  | unanswered call silent answer after => exact after ▸ keyed

theorem Store.keyed_empty : Store.empty.Keyed where
  analysis := nofun
  tryJob := nofun

theorem Run.keyed {admits : Episode → Prop} {past : List Episode} {s : EngineState}
    (run : Run admits past s)
    (works : ∀ e, admits e → e.call.isAnalysis → e.services.StoreWorks) : s.store.Keyed := by
  induction run with
  | start => exact Store.keyed_empty
  | step run admitted keyed => exact (Episode.course keyed (works _ admitted)).keyed keyed

def Services.giving (tryJobId : String) : Services where
  config := .standard
  history _ _ _ := .ok none
  changeLogs _ _ := .ok .empty
  dependencies := noDependencies
  scheduler := ⟨fun _ => .ok tryJobId, fun _ => .ok .scheduled⟩
  scorer := suspectNone
  storeFault _ := none

theorem Services.giving_works (tryJobId : String) : (Services.giving tryJobId).StoreWorks :=
  fun _ => rfl

def brokenCompile : FailureKey := ⟨⟨"chromium", "linux", 1⟩, .compile⟩

def brokenBuilds : List Build :=
  [⟨"chromium", "ci", "linux", 0, none, .success, "good", none, ["good"], .empty, .empty, .empty,
      none⟩,
    ⟨"chromium", "ci", "linux", 1, none, .failure, "bad", none, ["bad"], .ofList ["compile"],
      .empty, .empty, none⟩]

def Services.recalling (tryJobId : String) : Services :=
  { giving tryJobId with history := recordedHistory brokenBuilds }

theorem Services.recalling_works (tryJobId : String) : (Services.recalling tryJobId).StoreWorks :=
  fun _ => rfl

def brokenRange : TryJobRange := ⟨"good", "bad", [], .empty⟩

def brokenRequest (start : Int) : AnalysisRequest :=
  ⟨brokenCompile, .empty, ⟨start, 0⟩, ⟨start, 0⟩, ⟨0⟩⟩

def blaming : TryJobReport := ⟨[], some "bad", .empty, none, none, []⟩

end CulpritFinding
