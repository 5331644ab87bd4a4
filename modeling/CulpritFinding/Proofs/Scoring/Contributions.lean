import CulpritFinding.Proofs.Scoring.Merging
import Mathlib.Data.List.Basic

namespace CulpritFinding

section Contributions

variable (scorer : ChangeScorer) (input : ScoringInput)

def Suspects (build : Build) (evidence : FailureSignal) (revision : String) (hints : Hints) :
    Prop :=
  revision ∈ build.blameList ∧ ∃ commit, input.changeLogs.get? revision = some commit ∧
    hints = scorer evidence commit ((input.dependencies.get? revision).getD []) ∧ 0 < hints.score

variable (step : FailedStep) (signal : StepSignal)

/-- A commit of a build is a suspect in the light of the evidence on a test, and the build is one
that may have broken the test. -/
def TestSuspects (n : Int) (build : Build) (test revision : String) (hints : Hints) : Prop :=
  ∃ failure evidence, step.tests.get? test = some failure ∧
    signal.tests.get? test = some evidence ∧ evidence.isEmpty = false ∧
    failure.suspectRange.contains n = true ∧ Suspects scorer input build evidence revision hints

/-- What is known about a step and its tests makes a commit a suspect of a failure. Evidence on the
step as a whole counts for a build of which no commit is a suspect of a test. -/
inductive Contributes : FailureRef → String → Hints → Prop
  | ofTest {n : Int} {build : Build} {test revision : String} {hints : Hints}
      (known : input.builds.get? n = some build) (near : step.suspectRange.contains n = true)
      (found : TestSuspects scorer input step signal n build test revision hints) :
      Contributes (.ofTest step.stepName test) revision hints
  | ofStep {n : Int} {build : Build} {revision : String} {hints : Hints}
      (known : input.builds.get? n = some build) (near : step.suspectRange.contains n = true)
      (untested : ∀ test revision hints,
        ¬ TestSuspects scorer input step signal n build test revision hints)
      (found : Suspects scorer input build signal.signal revision hints) :
      Contributes (.ofStep step.stepName) revision hints

end Contributions

def FailedStep.suspectBuilds (step : FailedStep) (builds : SortedMap Int Build) :
    List (Int × Build) :=
  builds.toList.filter fun e => step.suspectRange.contains e.1

theorem FailedStep.mem_suspectBuilds {step : FailedStep} {builds : SortedMap Int Build} {n : Int}
    {build : Build} : (n, build) ∈ step.suspectBuilds builds ↔
      builds.get? n = some build ∧ step.suspectRange.contains n = true := by
  unfold suspectBuilds
  rw [List.mem_filter, SortedMap.get?_eq_some]

structure Suspect.Scored (logs : ChangeLogs) (s : Suspect) : Prop where
  weighed : s.hints.score = s.score
  positive : 0 < s.score
  logged : ∃ log, logs.get? s.revision = some log ∧ s.repoName = log.repoName ∧
    s.commitPosition = log.commitPosition

structure Suspicion.Records (logs : ChangeLogs) (given : List Suspicion)
    (contributes : FailureRef → String → Hints → Prop) : Prop where
  sound : ∀ g ∈ given, contributes g.failure g.suspect.revision g.suspect.hints
  complete : ∀ failure revision hints, contributes failure revision hints →
    ∃ g ∈ given, g.failure = failure ∧ g.suspect.revision = revision ∧ g.suspect.hints = hints
  scored : ∀ g ∈ given, g.suspect.Scored logs

section Lists

variable (scorer : ChangeScorer) (input : ScoringInput) (step : FailedStep) (signal : StepSignal)
  (n : Int) (build : Build)

def testSuspicions : List Suspicion :=
  (StepScores.testFindings scorer input step signal build n).flatMap fun f =>
    f.2.map fun c => ⟨c, .ofTest step.stepName f.1⟩

def buildSuspicions : List Suspicion :=
  if (testSuspicions scorer input step signal n build).isEmpty then
    (scoreBuild scorer input build signal.signal).map fun c => ⟨c, .ofStep step.stepName⟩
  else testSuspicions scorer input step signal n build

def stepSuspicions : List Suspicion :=
  (step.suspectBuilds input.builds).flatMap fun e =>
    buildSuspicions scorer input step signal e.1 e.2

variable {scorer input step signal n build}

theorem suspects_of_mem_scoreBuild {evidence : FailureSignal} {c : Suspect}
    (member : c ∈ scoreBuild scorer input build evidence) :
    Suspects scorer input build evidence c.revision c.hints ∧ c.Scored input.changeLogs := by
  unfold scoreBuild at member
  obtain ⟨revision, listed, scored⟩ := List.mem_filterMap.mp member
  obtain ⟨commit, known, scored⟩ := Option.bind_eq_some_iff.mp scored
  dsimp only at scored
  split at scored
  · cases scored
  · rename_i positive
    cases scored
    have positive := Nat.pos_of_ne_zero positive
    exact ⟨⟨listed, commit, known, rfl, positive⟩, rfl, positive, commit, known, rfl, rfl⟩

theorem exists_mem_scoreBuild {evidence : FailureSignal} {revision : String} {hints : Hints}
    (suspects : Suspects scorer input build evidence revision hints) :
    ∃ c ∈ scoreBuild scorer input build evidence, c.revision = revision ∧ c.hints = hints := by
  obtain ⟨listed, commit, known, rfl, positive⟩ := suspects
  let hints := scorer evidence commit ((input.dependencies.get? revision).getD [])
  let c : Suspect := ⟨commit.repoName, revision, commit.commitPosition, build.buildNumber,
    hints.score, hints, []⟩
  have scored : c ∈ scoreBuild scorer input build evidence := by
    unfold scoreBuild
    refine List.mem_filterMap.mpr ⟨revision, listed, ?_⟩
    rw [known]
    exact if_neg (Nat.ne_of_gt positive)
  exact ⟨c, scored, rfl, rfl⟩

theorem mem_testFindings {test : String} {found : List Suspect} :
    (test, found) ∈ StepScores.testFindings scorer input step signal build n ↔
      ∃ failure evidence, step.tests.get? test = some failure ∧
        signal.tests.get? test = some evidence ∧ evidence.isEmpty = false ∧
        failure.suspectRange.contains n = true ∧
        found = scoreBuild scorer input build evidence := by
  unfold StepScores.testFindings
  rw [List.mem_filterMap]
  constructor
  · rintro ⟨⟨name, failure⟩, member, consulted⟩
    obtain ⟨evidence, known, consulted⟩ := Option.bind_eq_some_iff.mp consulted
    dsimp only at known consulted
    split at consulted
    · cases consulted
    · rename_i near
      cases consulted
      simp only [Bool.or_eq_true, Bool.not_eq_true', not_or, Bool.not_eq_true,
        Bool.not_eq_false] at near
      exact ⟨failure, evidence, SortedMap.get?_eq_some.mpr member, known, near.1, near.2, rfl⟩
  · rintro ⟨failure, evidence, member, known, something, near, rfl⟩
    refine ⟨(test, failure), SortedMap.get?_eq_some.mp member, ?_⟩
    dsimp only
    rw [known, Option.bind_eq_bind, Option.bind_some, something, near]
    rfl

theorem of_mem_testSuspicions {g : Suspicion}
    (member : g ∈ testSuspicions scorer input step signal n build) :
    (∃ test, g.failure = .ofTest step.stepName test ∧
      TestSuspects scorer input step signal n build test g.suspect.revision g.suspect.hints) ∧
      g.suspect.Scored input.changeLogs := by
  unfold testSuspicions at member
  obtain ⟨⟨test, found⟩, consulted, member⟩ := List.mem_flatMap.mp member
  obtain ⟨c, scored, rfl⟩ := List.mem_map.mp member
  obtain ⟨failure, evidence, known, signalled, something, near, rfl⟩ :=
    mem_testFindings.mp consulted
  obtain ⟨suspects, own⟩ := suspects_of_mem_scoreBuild scored
  exact ⟨⟨test, rfl, failure, evidence, known, signalled, something, near, suspects⟩, own⟩

theorem exists_mem_testSuspicions {test revision : String} {hints : Hints}
    (found : TestSuspects scorer input step signal n build test revision hints) :
    ∃ g ∈ testSuspicions scorer input step signal n build,
      g.failure = .ofTest step.stepName test ∧ g.suspect.revision = revision ∧
      g.suspect.hints = hints := by
  obtain ⟨failure, evidence, known, signalled, something, near, suspects⟩ := found
  obtain ⟨c, scored, own, same⟩ := exists_mem_scoreBuild suspects
  have consulted : (test, scoreBuild scorer input build evidence) ∈
      StepScores.testFindings scorer input step signal build n :=
    mem_testFindings.mpr ⟨failure, evidence, known, signalled, something, near, rfl⟩
  refine ⟨⟨c, .ofTest step.stepName test⟩, ?_, rfl, own, same⟩
  unfold testSuspicions
  exact List.mem_flatMap.mpr ⟨_, consulted, List.mem_map_of_mem scored⟩

/-- The evidence on the step as a whole is consulted where no test names a suspect. -/
theorem testSuspicions_isEmpty : (testSuspicions scorer input step signal n build).isEmpty = true ↔
    ∀ test revision hints, ¬ TestSuspects scorer input step signal n build test revision hints := by
  rw [List.isEmpty_iff, List.eq_nil_iff_forall_not_mem]
  constructor
  · intro nothing test revision hints found
    obtain ⟨g, member, -⟩ := exists_mem_testSuspicions found
    exact nothing g member
  · intro untested g member
    obtain ⟨⟨test, -, found⟩, -⟩ := of_mem_testSuspicions member
    exact untested test _ _ found

theorem mem_stepSuspicions {g : Suspicion} : g ∈ stepSuspicions scorer input step signal ↔
    ∃ n build, input.builds.get? n = some build ∧ step.suspectRange.contains n = true ∧
      g ∈ buildSuspicions scorer input step signal n build := by
  unfold stepSuspicions
  rw [List.mem_flatMap]
  constructor
  · rintro ⟨⟨n, build⟩, visited, member⟩
    obtain ⟨known, near⟩ := FailedStep.mem_suspectBuilds.mp visited
    exact ⟨n, build, known, near, member⟩
  · rintro ⟨n, build, known, near, member⟩
    exact ⟨(n, build), FailedStep.mem_suspectBuilds.mpr ⟨known, near⟩, member⟩

theorem of_mem_stepSuspicions {g : Suspicion}
    (member : g ∈ stepSuspicions scorer input step signal) :
    Contributes scorer input step signal g.failure g.suspect.revision g.suspect.hints ∧
      g.suspect.Scored input.changeLogs := by
  obtain ⟨n, build, known, near, member⟩ := mem_stepSuspicions.mp member
  unfold buildSuspicions at member
  split at member
  · rename_i nothing
    obtain ⟨c, scored, rfl⟩ := List.mem_map.mp member
    obtain ⟨suspects, own⟩ := suspects_of_mem_scoreBuild scored
    exact ⟨.ofStep known near (testSuspicions_isEmpty.mp nothing) suspects, own⟩
  · obtain ⟨⟨test, failure, found⟩, own⟩ := of_mem_testSuspicions member
    rw [failure]
    exact ⟨.ofTest known near found, own⟩

theorem exists_mem_stepSuspicions {failure : FailureRef} {revision : String} {hints : Hints}
    (contributes : Contributes scorer input step signal failure revision hints) :
    ∃ g ∈ stepSuspicions scorer input step signal,
      g.failure = failure ∧ g.suspect.revision = revision ∧ g.suspect.hints = hints := by
  cases contributes with
  | @ofTest n build test revision hints known near found =>
    obtain ⟨g, member, same⟩ := exists_mem_testSuspicions found
    refine ⟨g, mem_stepSuspicions.mpr ⟨n, build, known, near, ?_⟩, same⟩
    have something : ¬ (testSuspicions scorer input step signal n build).isEmpty = true := by
      rw [List.isEmpty_iff]
      exact List.ne_nil_of_mem member
    unfold buildSuspicions
    rw [if_neg something]
    exact member
  | @ofStep n build revision hints known near untested found =>
    obtain ⟨c, scored, own, same⟩ := exists_mem_scoreBuild found
    refine ⟨⟨c, .ofStep step.stepName⟩, mem_stepSuspicions.mpr ⟨n, build, known, near, ?_⟩,
      rfl, own, same⟩
    unfold buildSuspicions
    rw [if_pos (testSuspicions_isEmpty.mpr untested)]
    exact List.mem_map_of_mem scored

theorem stepSuspicions_records : Suspicion.Records input.changeLogs
    (stepSuspicions scorer input step signal) (Contributes scorer input step signal) := by
  constructor
  · intro g member
    exact (of_mem_stepSuspicions member).1
  · intro failure revision hints contributes
    exact exists_mem_stepSuspicions contributes
  · intro g member
    exact (of_mem_stepSuspicions member).2

end Lists

namespace SuspectMap

theorem ofSuspicions_append (given more : List Suspicion) : ofSuspicions (given ++ more) =
    more.foldl (fun m g => m.blame g.suspect g.failure) (ofSuspicions given) :=
  List.foldl_append

theorem blameAll_ofSuspicions (given : List Suspicion) (found : List Suspect)
    (failure : FailureRef) :
    (ofSuspicions given).blameAll found failure =
      ofSuspicions (given ++ found.map fun c => ⟨c, failure⟩) := by
  rw [ofSuspicions_append, List.foldl_map]
  rfl

def ofSuspicions? (given : List Suspicion) : Option SuspectMap :=
  if given.isEmpty then none else some (ofSuspicions given)

theorem getD_ofSuspicions? (given : List Suspicion) :
    (ofSuspicions? given).getD .empty = ofSuspicions given := by
  cases given <;> rfl

end SuspectMap

structure StepScores.Holds (step : String) (given : List Suspicion) (s : StepScores) : Prop where
  suspects : s.suspects = .ofSuspicions given
  tests : ∀ test, s.tests.get? test =
    SuspectMap.ofSuspicions? (given.filter fun g => g.failure = .ofTest step test)

namespace StepScores

section Holds

variable {step : String} {given : List Suspicion} {s : StepScores}

theorem Holds.addTest (holds : s.Holds step given) (test : String) (found : List Suspect) :
    (s.addTest step test found).Holds step
      (given ++ found.map fun c => ⟨c, .ofTest step test⟩) := by
  unfold StepScores.addTest
  split
  · rename_i nothing
    rw [List.isEmpty_iff.mp nothing, List.map_nil, List.append_nil]
    exact holds
  · rename_i something
    constructor
    · dsimp only
      rw [holds.suspects, SuspectMap.blameAll_ofSuspicions]
    · intro test'
      dsimp only
      rw [SortedMap.get?_upsert, holds.tests test', SuspectMap.getD_ofSuspicions?,
        SuspectMap.blameAll_ofSuspicions, List.filter_append, List.filter_map]
      by_cases same : test = test'
      · subst same
        have all : (found.filter ((fun g : Suspicion => decide (g.failure = .ofTest step test)) ∘
            fun c => ⟨c, .ofTest step test⟩)) = found := by
          simp [Function.comp_def]
        rw [if_pos rfl, all]
        unfold SuspectMap.ofSuspicions?
        rw [if_neg]
        rw [List.isEmpty_iff] at something ⊢
        simp [something]
      · have none : (found.filter ((fun g : Suspicion => decide (g.failure = .ofTest step test')) ∘
            fun c => ⟨c, .ofTest step test⟩)) = [] := by
          simp [FailureRef.ofTest, same]
        rw [if_neg same, none, List.map_nil, List.append_nil]

theorem Holds.addTests (holds : s.Holds step given) (findings : List (String × List Suspect)) :
    (findings.foldl (fun s f => s.addTest step f.1 f.2) s).Holds step
      (given ++ findings.flatMap fun f => f.2.map fun c => ⟨c, .ofTest step f.1⟩) := by
  induction findings generalizing given s with
  | nil =>
    rw [List.flatMap_nil, List.append_nil]
    exact holds
  | cons f findings ih =>
    rw [List.flatMap_cons, ← List.append_assoc]
    exact ih (holds.addTest f.1 f.2)

theorem Holds.addWhole (holds : s.Holds step given) (found : List Suspect) :
    Holds step (given ++ found.map fun c => ⟨c, .ofStep step⟩)
      { s with suspects := s.suspects.blameAll found (.ofStep step) } := by
  constructor
  · dsimp only
    rw [holds.suspects, SuspectMap.blameAll_ofSuspicions]
  · intro test
    -- What concerns the step as a whole adds nothing to the entry of a test.
    have none : (found.filter ((fun g : Suspicion => decide (g.failure = .ofTest step test)) ∘
        fun c => ⟨c, .ofStep step⟩)) = [] := by
      simp [FailureRef.ofTest, FailureRef.ofStep]
    dsimp only
    rw [List.filter_append, List.filter_map, none, List.map_nil, List.append_nil]
    exact holds.tests test

end Holds

section Walk

variable (scorer : ChangeScorer) (input : ScoringInput) (step : FailedStep) (signal : StepSignal)

theorem Holds.addBuild {given : List Suspicion} {s : StepScores}
    (holds : s.Holds step.stepName given) (n : Int) (build : Build) :
    (s.addBuild scorer input step signal n build).Holds step.stepName
      (given ++ buildSuspicions scorer input step signal n build) := by
  have nothing : ((testFindings scorer input step signal build n).all fun f => f.2.isEmpty) =
      (testSuspicions scorer input step signal n build).isEmpty := by
    unfold testSuspicions
    rw [Bool.eq_iff_iff, List.all_eq_true, List.isEmpty_iff, List.flatMap_eq_nil_iff]
    simp only [List.isEmpty_iff, List.map_eq_nil_iff]
  unfold StepScores.addBuild buildSuspicions
  dsimp only
  rw [nothing]
  split
  · exact holds.addWhole _
  · exact holds.addTests _

theorem ofStep_eq : ofStep scorer input step signal =
    (step.suspectBuilds input.builds).foldl
      (fun s e => s.addBuild scorer input step signal e.1 e.2) .empty :=
  rfl

theorem ofStep_holds :
    (ofStep scorer input step signal).Holds step.stepName
      (stepSuspicions scorer input step signal) := by
  have along : ∀ (builds : List (Int × Build)) {given : List Suspicion} {s : StepScores},
      s.Holds step.stepName given →
      (builds.foldl (fun s e => s.addBuild scorer input step signal e.1 e.2) s).Holds step.stepName
        (given ++ builds.flatMap fun e => buildSuspicions scorer input step signal e.1 e.2) := by
    intro builds
    induction builds with
    | nil =>
      intro given s holds
      rw [List.flatMap_nil, List.append_nil]
      exact holds
    | cons e builds ih =>
      intro given s holds
      rw [List.flatMap_cons, ← List.append_assoc]
      exact ih (holds.addBuild scorer input step signal e.1 e.2)
  have start : empty.Holds step.stepName [] := ⟨rfl, fun test => rfl⟩
  exact along (step.suspectBuilds input.builds) start

end Walk

end StepScores

namespace ScoringInput

def evidenced (input : ScoringInput) : List (FailedStep × StepSignal) :=
  (input.failedSteps.filter (·.supported)).filterMap fun step => do
    let signal ← input.signals.get? step.stepName
    if signal.isEmpty then none else some (step, signal)

end ScoringInput

theorem scoreSteps_eq (scorer : ChangeScorer) (input : ScoringInput) :
    scoreSteps scorer input =
      input.evidenced.map fun e => (e.1.stepName, .ofStep scorer input e.1 e.2) := by
  unfold scoreSteps ScoringInput.evidenced
  rw [List.map_filterMap]
  apply List.filterMap_congr
  intro step _
  cases input.signals.get? step.stepName with
  | none => rfl
  | some signal =>
    rw [Option.bind_eq_bind, Option.bind_some, Option.bind_eq_bind, Option.bind_some]
    split <;> rfl

/-- The suspects of a step are blamed for all its failures once more in the list for all steps. -/
def globalSuspicions (scorer : ChangeScorer) (input : ScoringInput) : List Suspicion :=
  input.evidenced.flatMap fun e =>
    (SuspectMap.ofSuspicions (stepSuspicions scorer input e.1 e.2)).values.flatMap fun s =>
      s.failures.map fun failure => ⟨s, failure⟩

theorem mergeSteps_eq (scorer : ChangeScorer) (input : ScoringInput) :
    mergeSteps (scoreSteps scorer input) = .ofSuspicions (globalSuspicions scorer input) := by
  unfold mergeSteps globalSuspicions SuspectMap.ofSuspicions
  rw [scoreSteps_eq, List.flatMap_map]
  simp only [List.foldl_flatMap, List.foldl_map,
    (StepScores.ofStep_holds scorer input _ _).suspects]
  rfl

end CulpritFinding
