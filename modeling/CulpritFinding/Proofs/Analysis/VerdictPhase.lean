import CulpritFinding.Proofs.Analysis.Waiting
import CulpritFinding.Proofs.Run

namespace CulpritFinding

namespace Episode

def attaches? (e : Episode) (key : FailureKey) : Option Bool :=
  match e.call with
  | .analyze request =>
    if request.key = key then
      match e.answer with
      | .ok (.outcome outcome) => some outcome.tryJob.isSome
      | _ => some false
    else none
  | _ => none

structure Analyzes (e : Episode) : Prop where
  works : e.services.StoreWorks
  about : e.call.isAnalysis = true

end Episode

/-- Whether the latest analysis of a failure handed out a try job. -/
def attached (key : FailureKey) : List Episode → Bool
  | [] => false
  | e :: past => (e.attaches? key).getD (attached key past)

variable {s : EngineState}

theorem Episode.attaches?_of_no_trigger {e : Episode} (silent : e.call.triggers? = none)
    (key : FailureKey) : e.attaches? key = none := by
  unfold attaches?
  cases call : e.call with
  | analyze request =>
    rw [call] at silent
    cases silent
  | _ => rfl

inductive AnalysisCourse (e : Episode) : Prop
  | ending {request : AnalysisRequest} {r : Except AnalysisError AnalysisOutcome}
      (call : e.call = .analyze request) (answer : e.answer = r.map .outcome)
      (ending : AnalysisEnding e.services request e.before r e.after)
  | followUp {tryJobId : String} {status : ExternalStatus} {now : Instant}
      {r : Except AnalysisError FollowUp} (call : e.call.triggers? = none)
      (answer : e.answer = r.map .followUp)
      (ending : FollowUpEnding e.services tryJobId status now e.before r e.after)
  | unanswered {cause : AnalysisError} (call : e.call.triggers? = none)
      (answer : e.answer = .error cause) (after : e.after = e.before)

variable {e : Episode} {past : List Episode}

theorem Course.analysis (course : Course e) (about : e.call.isAnalysis = true) :
    AnalysisCourse e := by
  cases course with
  | ending call answer ending => exact .ending call answer ending
  | followUp call told answer ending => exact .followUp call answer ending
  | unanswered call silent answer after => exact .unanswered (call ▸ rfl) answer after
  | scheduling call => cases (congrArg Call.isAnalysis call).symm.trans about
  | following call => cases (congrArg Call.isAnalysis call).symm.trans about
  | claimed call => cases (congrArg Call.isAnalysis call).symm.trans about
  | unclaimed call => cases (congrArg Call.isAnalysis call).symm.trans about

theorem Followed.step (followed : Followed (attached · past) e.before)
    (keyed : e.before.store.Keyed) (analyzes : e.Analyzes) :
    Followed (attached · (e :: past)) e.after := by
  have kept : e.call.triggers? = none → (attached · (e :: past)) = (attached · past) := by
    intro silent
    funext key
    rw [attached, Episode.attaches?_of_no_trigger silent]
    rfl
  have course := Episode.course keyed fun _ => analyzes.works
  cases course.analysis analyzes.about with
  | @ending request r call answer ending =>
    have latest : (attached · (e :: past)) =
        fun key => if request.key = key then handsOut r else attached key past := by
      funext key
      rw [attached]
      unfold Episode.attaches?
      rw [call, answer]
      dsimp only
      split
      · cases r <;> rfl
      · rfl
    rw [latest]
    exact followed.analyze keyed ending
  | followUp call answer ending =>
    rw [kept call]
    exact followed.followUp analyzes.works keyed ending
  | unanswered call answer after =>
    rw [kept call, after]
    exact followed

theorem Run.followed (run : Run Episode.Analyzes past s) :
    Followed (attached · past) s := by
  induction run with
  | start => exact ⟨nofun, nofun⟩
  | step run analyzes followed =>
    exact followed.step (run.keyed fun _ analyzes _ => analyzes.works) analyzes

/-- A verdict is recorded exactly where the latest analysis of the failure handed out a try job. -/
theorem Run.verdict_recorded_iff (run : Run Episode.Analyzes past e.before)
    (analyzes : e.Analyzes) {update : TryJobUpdate} {verdict : Verdict} {a : Option Analysis}
    (answered : e.followUp? = some ⟨update, some verdict, a⟩) :
    ∃ ruled, a = some ruled ∧ e.after.store.analysis? ruled.key = some ruled ∧
      (ruled.tryJobPhase = verdict.phase ↔ attached ruled.key past = true) ∧
      (ruled.hasVerdict = true ↔ attached ruled.key past = true) := by
  have keyed := run.keyed fun _ analyzes _ => Episode.Analyzes.works analyzes
  have course := Episode.course keyed fun _ => analyzes.works
  unfold Episode.followUp? at answered
  cases course.analysis analyzes.about with
  | @ending request r call answer =>
    rw [answer] at answered
    cases r <;> cases answered
  | @followUp tryJobId status now r call answer ending =>
    have same : r = .ok ⟨update, some verdict, a⟩ := by
      rw [answer] at answered
      cases r with
      | error cause => cases answered
      | ok followUp => exact congrArg _ (Option.some.inj answered)
    exact run.followed.ruling keyed ending same
  | unanswered call answer =>
    rw [answer] at answered
    cases answered

namespace Interrupted

def online : Services := { Services.giving "8000001" with history := recordedHistory brokenBuilds }

def offline : Services :=
  { online with changeLogs := fun _ _ => .error (.unavailable "change log" "offline") }

def request (start : Int) : AnalysisRequest :=
  ⟨brokenCompile, .empty, ⟨start, 0⟩, ⟨start, 0⟩, ⟨0⟩⟩

def scheduled : Episode := ⟨online, .analyze (request 0), .initial⟩

def aborted : Episode := ⟨offline, .analyze (request 60), scheduled.after⟩

def ruled : Episode :=
  ⟨online, .follow "8000001" (.completed .success (some ⟨[], some "bad", .empty, none, none, []⟩)
    none) ⟨120, 0⟩, aborted.after⟩

theorem run : Run Episode.Analyzes [aborted, scheduled] ruled.before := by
  refine .step (.step .start ⟨fun _ => ?_, ?_⟩) ⟨fun _ => ?_, ?_⟩ <;> rfl

def verdict : Verdict := .found (.ofList [("compile", "bad")]) .empty

theorem verdict_unrecorded_after_abort :
    ∃ update a, ruled.followUp? = some ⟨update, some verdict, some a⟩ ∧
      a.key = brokenCompile ∧ a.hasVerdict = false := by
  have told : ruled.followUp?.map (fun f => (f.verdict, f.analysis.map (·.key))) =
      some (some verdict, some brokenCompile) := by decide +kernel
  have unattached : attached brokenCompile [aborted, scheduled] = false := by decide +kernel
  simp only [Option.map_eq_some_iff, Prod.mk.injEq] at told
  obtain ⟨⟨update, _, _⟩, answered, rfl, a, rfl, key⟩ := told
  obtain ⟨_, ⟨⟩, -, -, recorded⟩ := Run.verdict_recorded_iff run ⟨fun _ => rfl, rfl⟩ answered
  rw [key, unattached] at recorded
  exact ⟨update, a, answered, key, Bool.eq_false_iff.mpr fun known => nomatch recorded.mp known⟩

end Interrupted

end CulpritFinding
