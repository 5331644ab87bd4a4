import CulpritFinding.Proofs.Analysis.BisectionDue
import CulpritFinding.Proofs.Scoring.Commits

namespace CulpritFinding

section Recorded

variable {commits : List ChangeLog} {revision : String}

theorem positionOf?_of_mem_take {n : Nat} {c : ChangeLog} (member : c ∈ commits.take n)
    (same : c.revision = revision) : ∃ q < n, positionOf? commits revision = some q := by
  induction commits generalizing n with
  | nil => simp at member
  | cons first rest ih =>
    cases n with
    | zero => simp at member
    | succ n =>
      unfold positionOf? at ih ⊢
      rw [List.findIdx?_cons]
      by_cases here : first.revision = revision
      · exact ⟨0, Nat.succ_pos n, by simp [here]⟩
      · rcases List.mem_cons.mp member with rfl | later
        · exact absurd same here
        · obtain ⟨q, bound, found⟩ := ih later
          exact ⟨q + 1, by omega, by simp [here, found]⟩

theorem find?_reverse_drop {α : Type} {p : α → Bool} {xs : List α} {n : Nat}
    (absent : ∀ x ∈ xs.take n, p x = false) :
    (xs.drop n).reverse.find? p = xs.reverse.find? p := by
  have before : (xs.take n).reverse.find? p = none := by
    rw [List.find?_eq_none]
    intro x member
    simp [absent x (List.mem_reverse.mp member)]
  have split : xs.reverse = (xs.drop n).reverse ++ (xs.take n).reverse := by
    rw [← List.reverse_append, List.take_append_drop]
  rw [split, List.find?_append, before, Option.or_none]

theorem recordedChangeLogs_get? {after : Option String} {upTo : String} {bounded all : ChangeLogs}
    (pulled : recordedChangeLogs commits after upTo = .ok bounded)
    (pulledAll : recordedChangeLogs commits none upTo = .ok all)
    (later : ∀ p ∈ after.bind (positionOf? commits), ∀ q ∈ positionOf? commits revision, p < q) :
    bounded.get? revision = all.get? revision := by
  unfold recordedChangeLogs at pulled pulledAll
  cases last : positionOf? commits upTo with
  | none =>
    rw [last] at pulled pulledAll
    cases pulled
    cases pulledAll
    rfl
  | some stop =>
    rw [last] at pulled pulledAll
    cases pulled
    cases pulledAll
    cases bound : after.bind (positionOf? commits) with
    | none => rfl
    | some p =>
      rw [SortedMap.get?_ofList, SortedMap.get?_ofList]
      simp only [Option.map_some, Option.getD_some, Option.bind_none, Option.map_none,
        Option.getD_none, List.drop_zero]
      rw [List.map_drop, find?_reverse_drop]
      intro e member
      rw [← List.map_take] at member
      obtain ⟨c, known, rfl⟩ := List.mem_map.mp member
      rw [decide_eq_false_iff_not]
      intro same
      rw [List.take_take, Nat.min_comm, ← List.take_take] at known
      have early : c ∈ commits.take (p + 1) := List.mem_of_mem_take known
      obtain ⟨q, before, position⟩ := positionOf?_of_mem_take early same
      have := later p bound q position
      omega

end Recorded

namespace RegressionRange

variable (range : RegressionRange)

/-- The number of the build after which commits are suspected, whether or not it was looked at. -/
def baseNumber? : Option Int :=
  ((range.failedSteps.filter (·.supported)).map fun step =>
    step.lastPass.getD (step.firstFailure - 1)).min?

theorem baseRevision?_eq :
    range.baseRevision? = (range.baseNumber?.bind range.builds.get?).map (·.revision) := by
  unfold baseRevision? baseNumber?
  dsimp only
  cases ((range.failedSteps.filter (·.supported)).map fun step =>
      step.lastPass.getD (step.firstFailure - 1)).min? with
  | none => rfl
  | some n => cases found : range.builds.get? n <;> simp [found]

/-- The commits on record that were new in builds above the base stand after that of the base, if
it was looked at and is on record. -/
def BlamesLater (commits : List ChangeLog) : Prop :=
  ∀ n ∈ range.baseNumber?, ∀ base ∈ range.builds.get? n, ∀ p ∈ positionOf? commits base.revision,
    ∀ e ∈ range.builds.toList, n < e.1 → ∀ revision ∈ e.2.blameList,
      ∀ q ∈ positionOf? commits revision, p < q

instance (commits : List ChangeLog) : Decidable (range.BlamesLater commits) :=
  inferInstanceAs (Decidable (∀ n ∈ range.baseNumber?, _))

variable {range}

theorem baseNumber_lt {n : Int} (base : range.baseNumber? = some n) {step : FailedStep}
    (member : step ∈ range.failedSteps) (supported : step.supported = true) {number : Int}
    (within : step.suspectRange.contains number = true) : n < number := by
  have least := (List.min?_eq_some_iff.mp base).2 _
    (List.mem_map_of_mem (List.mem_filter.mpr ⟨member, supported⟩))
  unfold FailedStep.suspectRange BuildRange.ofSuspects BuildRange.contains at within
  simp only [Bool.and_eq_true, decide_eq_true_eq] at within
  cases passed : step.lastPass with
  | none =>
    simp only [passed, Option.getD_none] at least within
    omega
  | some pass =>
    simp only [passed, Option.getD_some] at least within
    omega

theorem BlamesLater.get?_eq {commits : List ChangeLog} (later : range.BlamesLater commits)
    {upTo : String} {bounded all : ChangeLogs}
    (pulled : recordedChangeLogs commits range.baseRevision? upTo = .ok bounded)
    (pulledAll : recordedChangeLogs commits none upTo = .ok all)
    {rolls : DependencyRolls} {signals : FailureSignals} {revision : String}
    (considered : ScoringInput.Considers
      ⟨range.failedSteps, range.builds, bounded, rolls, signals⟩ revision) :
    all.get? revision = bounded.get? revision := by
  obtain ⟨step, member, supported, e, known, within, blamed⟩ := considered
  symm
  apply recordedChangeLogs_get? pulled pulledAll
  intro p bound q position
  rw [baseRevision?_eq] at bound
  obtain ⟨_, base, found⟩ := Option.bind_eq_some_iff.mp bound
  obtain ⟨build, lookedAt, rfl⟩ := Option.map_eq_some_iff.mp base
  obtain ⟨n, number, lookedAt⟩ := Option.bind_eq_some_iff.mp lookedAt
  exact later n number build lookedAt p found e known
    (baseNumber_lt number member supported within) revision blamed q position

end RegressionRange

def RollsAlike (logs logs' : ChangeLogs) :
    Except ProviderError DependencyRolls → Except ProviderError DependencyRolls → Prop
  | .ok rolls, .ok rolls' => ∀ revision, (logs.get? revision).isSome = true →
      (logs'.get? revision).isSome = true →
        (rolls'.get? revision).getD [] = (rolls.get? revision).getD []
  | .error e, .error e' => e = e'
  | _, _ => False

/-- What a source says about the rolls of a commit does not depend on the other commits that it is
asked about. -/
def DependencySource.CommitByCommit (source : DependencySource) : Prop :=
  ∀ build logs logs', RollsAlike logs logs' (source build logs) (source build logs')

theorem recordedDependencies_commitByCommit (rolls : DependencyRolls) :
    DependencySource.CommitByCommit (recordedDependencies rolls) := by
  intro build logs logs' revision known known'
  rw [SortedMap.get?_filter, SortedMap.get?_filter, SortedMap.contains_eq_isSome,
    SortedMap.contains_eq_isSome, known, known']

/-- Services that give all commits up to a revision, whichever commit they are asked to begin
after, and take dependency rolls from another source. -/
def Services.unbounded (services : Services) (source : DependencySource) : Services :=
  { services with
    changeLogs := fun _ upTo => services.changeLogs none upTo
    dependencies := source }

theorem recordedChangeLogs_ok (commits : List ChangeLog) (after : Option String) (upTo : String) :
    ∃ logs, recordedChangeLogs commits after upTo = .ok logs := by
  unfold recordedChangeLogs
  split
  · exact ⟨_, rfl⟩
  · exact ⟨_, rfl⟩

theorem orAbort_fails {α : Type} (services : Services) (a : Analysis) (e : AnalysisError)
    (now : Instant) (s : EngineState) : ∃ e' after,
      (orAbort services a now (.error e) : Engine α).runOn s = (.error e', after) := by
  by_cases stopped : e = .outOfRange
  · subst stopped
    exact ⟨_, _, Engine.runOn_throw ..⟩
  · rw [orAbort_error stopped]
    unfold abortAnalysis
    rw [Engine.runOn_bind]
    split
    · rw [Engine.runOn_bind_ok _ (Engine.runOn_record ..), Engine.runOn_throw]
      exact ⟨_, _, rfl⟩
    · exact ⟨_, _, rfl⟩

section

variable {services : Services} {commits : List ChangeLog} {source : DependencySource}
  {request : AnalysisRequest} {build : Build} {range : RegressionRange}

theorem scoreSuspects?_unbounded (later : range.BlamesLater commits) {upTo : String}
    {bounded all : ChangeLogs}
    (pulled : recordedChangeLogs commits range.baseRevision? upTo = .ok bounded)
    (pulledAll : recordedChangeLogs commits none upTo = .ok all) {rolls rolls' : DependencyRolls}
    (alike : RollsAlike bounded all (.ok rolls) (.ok rolls')) (scorer : ChangeScorer)
    (signals : FailureSignals) :
    scoreSuspects? scorer ⟨range.failedSteps, range.builds, all, rolls', signals⟩ =
      scoreSuspects? scorer ⟨range.failedSteps, range.builds, bounded, rolls, signals⟩ := by
  -- Commits do not bear on which builds are gone through.
  have inRange : ScoringInput.inRange ⟨range.failedSteps, range.builds, all, rolls', signals⟩ =
      ScoringInput.inRange ⟨range.failedSteps, range.builds, bounded, rolls, signals⟩ := rfl
  have scored : scoreSuspects scorer ⟨range.failedSteps, range.builds, all, rolls', signals⟩ =
      scoreSuspects scorer ⟨range.failedSteps, range.builds, bounded, rolls, signals⟩ := by
    apply scoreSuspects_agree
    refine ⟨rfl, rfl, rfl, ?_⟩
    intro revision considered
    have same := later.get?_eq pulled pulledAll considered
    refine ⟨same, ?_⟩
    intro known
    exact alike revision known (same ▸ known)
  unfold scoreSuspects?
  rw [inRange, scored]

theorem findSuspects_unbounded (recorded : services.changeLogs = recordedChangeLogs commits)
    (later : range.BlamesLater commits)
    (alike : ∀ bounded all, services.changeLogs range.baseRevision? build.revision = .ok bounded →
      RollsAlike bounded all (services.dependencies build bounded) (source build all))
    (signals : FailureSignals) :
    findSuspects (services.unbounded source) build range signals =
      findSuspects services build range signals := by
  obtain ⟨bounded, pulled⟩ := recordedChangeLogs_ok commits range.baseRevision? build.revision
  obtain ⟨all, pulledAll⟩ := recordedChangeLogs_ok commits none build.revision
  have answers := alike bounded all (recorded ▸ pulled)
  unfold findSuspects Services.unbounded
  dsimp only
  rw [recorded, pulled, pulledAll]
  dsimp only [Except.mapError, bind, Except.bind]
  cases answer : services.dependencies build bounded <;>
    cases answer' : source build all <;> rw [answer, answer'] at answers
  · cases answers
    rfl
  · exact answers.elim
  · exact answers.elim
  · dsimp only
    rw [scoreSuspects?_unbounded later pulled pulledAll answers]

theorem analyzeSteps_unbounded (a : Analysis) {steps : List FailedStep}
    (same : ∀ signals, findSuspects (services.unbounded source) build
        (findRegressionRange services.history services.config build steps) signals =
      findSuspects services build
        (findRegressionRange services.history services.config build steps) signals) :
    analyzeSteps (services.unbounded source) request a build steps =
      analyzeSteps services request a build steps := by
  have walk : findRegressionRange? (services.unbounded source).history
      (services.unbounded source).config build steps =
        findRegressionRange? services.history services.config build steps := rfl
  unfold analyzeSteps
  rw [walk]
  cases walked : findRegressionRange? services.history services.config build steps with
  | none => rfl
  | some range =>
    obtain rfl := (findRegressionRange?_eq_some.mp walked).2
    dsimp only [analyzeRange]
    rw [same]
    rfl

theorem analyzeFailure_alike_unbounded
    (recorded : services.changeLogs = recordedChangeLogs commits)
    (later : ∀ build, buildOnRecord services.history request.key.build = .ok build →
      (request.range services build).BlamesLater commits)
    (alike : ∀ build, buildOnRecord services.history request.key.build = .ok build →
      ∀ bounded all, services.changeLogs (request.range services build).baseRevision?
          build.revision = .ok bounded →
        RollsAlike bounded all (services.dependencies build bounded) (source build all))
    (s : EngineState) :
    (analyzeFailure (services.unbounded source) request).runOn s =
      (analyzeFailure services request).runOn s := by
  have begins : beginAnalysis (services.unbounded source) request =
      beginAnalysis services request := rfl
  have builds : (services.unbounded source).history = services.history := rfl
  unfold analyzeFailure
  rw [begins, builds, Engine.runOn_bind, Engine.runOn_bind]
  split
  · rename_i a middle _
    cases onRecord : buildOnRecord services.history request.key.build with
    | error e =>
      obtain ⟨e', after, aborted⟩ : ∃ e' after, (orAbort services a request.finish (.error e) :
          Engine Build).runOn middle = (.error e', after) :=
        orAbort_fails services a e request.finish middle
      have aborted' : (orAbort (services.unbounded source) a request.finish (.error e) :
          Engine Build).runOn middle = (.error e', after) := aborted
      rw [Engine.runOn_bind_error _ aborted, Engine.runOn_bind_error _ aborted']
    | ok build =>
      have suspects := findSuspects_unbounded recorded (later build onRecord) (alike build onRecord)
      have analyzed : analyzeSteps (services.unbounded source) request a build
          (request.steps (services.unbounded source) build) =
            analyzeSteps services request a build (request.steps services build) :=
        analyzeSteps_unbounded a suspects
      unfold orAbort
      rw [Engine.runOn_bind_ok _ (Engine.runOn_pure ..),
        Engine.runOn_bind_ok _ (Engine.runOn_pure ..)]
      unfold AnalysisRequest.steps at analyzed
      dsimp only
      rw [analyzed]
      rfl
  · rfl

/-- Bounding the commits loses no suspect: an analysis runs like one that asks for all commits up
to the revision of the build, with the rolls that it was given for the commits after the base, or
with those of a source that answers commit by commit. -/
theorem analyzeFailure_unbounded (recorded : services.changeLogs = recordedChangeLogs commits)
    (later : ∀ build, buildOnRecord services.history request.key.build = .ok build →
      (request.range services build).BlamesLater commits) (s : EngineState) :
    (∀ build logs, buildOnRecord services.history request.key.build = .ok build →
      services.changeLogs (request.range services build).baseRevision? build.revision = .ok logs →
        (analyzeFailure (services.unbounded fun _ _ => services.dependencies build logs)
            request).runOn s = (analyzeFailure services request).runOn s) ∧
      (services.dependencies.CommitByCommit →
        (analyzeFailure (services.unbounded services.dependencies) request).runOn s =
          (analyzeFailure services request).runOn s) := by
  constructor
  · intro build logs onRecord pulled
    apply analyzeFailure_alike_unbounded recorded later
    intro build' onRecord' bounded all pulled'
    cases onRecord.symm.trans onRecord'
    cases pulled.symm.trans pulled'
    cases services.dependencies build logs with
    | error e => rfl
    | ok rolls => exact fun _ _ _ => rfl
  · intro byCommit
    apply analyzeFailure_alike_unbounded recorded later
    intro build _ bounded all _
    exact byCommit build bounded all

end

namespace Recalled

def commit (revision : String) : ChangeLog :=
  ⟨revision, none, "", [⟨.modify, none, some "base/foo.cc"⟩], "chromium"⟩

def commits : List ChangeLog := [commit "old", commit "good", commit "bad"]

def rolls : DependencyRolls := .ofList [("old", [⟨"base", "", none, "v1"⟩])]

def services : Services :=
  { Services.recalling "8000001" with
    changeLogs := recordedChangeLogs commits
    dependencies := recordedDependencies rolls
    scorer := FileOverlap.hints ⟨.standard⟩ }

def request : AnalysisRequest :=
  ⟨brokenCompile, .ofList [("compile", ⟨"base/foo.cc:7: error", .empty⟩)], ⟨0, 0⟩, ⟨0, 0⟩, ⟨0⟩⟩

def revisions (answer : Except AnalysisError AnalysisOutcome) : List String :=
  answer.toOption.toList.flatMap fun o => o.analysis.suspects.map (·.revision)

theorem suspects_unbounded :
    (request.range services brokenBuilds[1]).baseRevision? = some "good" ∧
      (request.range services brokenBuilds[1]).BlamesLater commits ∧
      revisions ((analyzeFailure (services.unbounded services.dependencies) request).runOn
        .initial).1 = ["bad"] := by
  have recorded : services.changeLogs = recordedChangeLogs commits := rfl
  have known : buildOnRecord services.history request.key.build = .ok brokenBuilds[1] := by
    decide +kernel
  have later : (request.range services brokenBuilds[1]).BlamesLater commits := by decide +kernel
  have later' : ∀ build, buildOnRecord services.history request.key.build = .ok build →
      (request.range services build).BlamesLater commits := by
    intro build onRecord
    cases known.symm.trans onRecord
    exact later
  refine ⟨by decide +kernel, later, ?_⟩
  rw [(analyzeFailure_unbounded recorded later' .initial).2
    (recordedDependencies_commitByCommit rolls)]
  decide +kernel

end Recalled

end CulpritFinding
