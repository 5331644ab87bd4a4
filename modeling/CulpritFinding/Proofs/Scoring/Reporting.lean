import CulpritFinding.Proofs.Scoring.Naming

namespace CulpritFinding

/-- A list of all suspects, where `scores` are the hints that each commit was given. -/
structure Suspect.Reports (logs : ChangeLogs) (scores : String → Hints → Prop)
    (suspects : List Suspect) : Prop where
  complete : ∀ revision hints, scores revision hints → ∃ s ∈ suspects, s.revision = revision
  once : (suspects.map (·.revision)).Nodup
  given : ∀ s ∈ suspects, scores s.revision s.hints
  greatest : ∀ s ∈ suspects, ∀ hints, scores s.revision hints → hints.score ≤ s.score
  scored : ∀ s ∈ suspects, s.Scored logs
  failures : ∀ s ∈ suspects, s.failures.Pairwise fun f g => SortKey.before f g = true
  ranked : suspects.Pairwise Suspect.Outranks
  settled : ∀ found : List Suspect, found.Perm suspects → Suspect.rank found = suspects

theorem Suspect.Merges.scored {logs : ChangeLogs} {given : List Suspicion} {s : Suspect}
    (merges : s.Merges given s.revision) (scored : ∀ g ∈ given, g.suspect.Scored logs) :
    s.Scored logs := by
  obtain ⟨g, known, same⟩ := merges.origin
  obtain ⟨g', known', -, score, hints⟩ := merges.best
  constructor
  · rw [← score, ← hints]
    exact (scored g' known').weighed
  · rw [← score]
    exact (scored g' known').positive
  · obtain ⟨repoName, revision, position⟩ : s.repoName = g.suspect.repoName ∧
        s.revision = g.suspect.revision ∧ s.commitPosition = g.suspect.commitPosition := by
      simpa [Suspect.commit, eq_comm] using same
    rw [repoName, revision, position]
    exact (scored g known).logged

theorem SuspectMap.ranked_reports {logs : ChangeLogs} {given : List Suspicion}
    {scores : String → Hints → Prop}
    (sound : ∀ g ∈ given, scores g.suspect.revision g.suspect.hints)
    (scored : ∀ g ∈ given, g.suspect.Scored logs)
    (covered : ∀ revision hints, scores revision hints →
      ∃ g ∈ given, g.suspect.revision = revision ∧ hints.score ≤ g.suspect.score) :
    Suspect.Reports logs scores (ofSuspicions given).ranked := by
  have ranked := ranked_outranks given
  constructor
  · intro revision hints score
    obtain ⟨g, known, own, -⟩ := covered _ _ score
    obtain ⟨s, member, same⟩ := exists_mem_ranked known
    exact ⟨s, member, same.trans own⟩
  · exact once_ranked given
  · intro s member
    obtain ⟨g, known, own, -, hints⟩ := (merges_of_mem_ranked member).best
    rw [← own, ← hints]
    exact sound g known
  · intro s member hints score
    obtain ⟨g, known, own, covers⟩ := covered _ _ score
    exact Nat.le_trans covers ((merges_of_mem_ranked member).most g known own)
  · intro s member
    exact (merges_of_mem_ranked member).scored scored
  · intro s member
    exact (merges_of_mem_ranked member).ascending
  · exact ranked
  · intro found perm
    exact Suspect.rank_eq_of_perm perm ranked

theorem Suspicion.Records.reports {logs : ChangeLogs} {given : List Suspicion}
    {contributes : FailureRef → String → Hints → Prop} (records : Records logs given contributes) :
    Suspect.Reports logs (fun revision hints => ∃ failure, contributes failure revision hints)
      (SuspectMap.ofSuspicions given).ranked := by
  apply SuspectMap.ranked_reports
  · intro g member
    exact ⟨g.failure, records.sound g member⟩
  · exact records.scored
  · rintro revision hints ⟨failure, found⟩
    obtain ⟨g, member, -, own, same⟩ := records.complete _ _ _ found
    have weighed : hints.score = g.suspect.score := by
      rw [← same, (records.scored g member).weighed]
    exact ⟨g, member, own, Nat.le_of_eq weighed⟩

section Steps

variable (scorer : ChangeScorer) (input : ScoringInput) (step : FailedStep) (signal : StepSignal)

theorem ofStep_reports :
    Suspect.Reports input.changeLogs
      (fun revision hints => ∃ failure,
        Contributes scorer input step signal failure revision hints)
      (StepScores.ofStep scorer input step signal).suspects.ranked := by
  rw [(StepScores.ofStep_holds scorer input step signal).suspects]
  exact stepSuspicions_records.reports

theorem ofTest_reports (test : String) :
    Suspect.Reports input.changeLogs
      (Contributes scorer input step signal (.ofTest step.stepName test))
      ((((StepScores.ofStep scorer input step signal).ranked step.stepName).tests.get? test).getD
        []) := by
  have reports := (stepSuspicions_recordsTest scorer input step signal test).reports
  simp only [exists_eq_left] at reports
  convert reports using 1
  have listed {suspects : List Suspect} :=
    @get?_ranked_tests scorer input step signal test suspects
  cases kept : ((StepScores.ofStep scorer input step signal).ranked step.stepName).tests.get? test
  with
  | some suspects => exact (listed.mp kept).2
  | none =>
    have nothing : ((stepSuspicions scorer input step signal).filter fun g =>
        g.failure = .ofTest step.stepName test) = [] := by
      by_contra something
      cases kept.symm.trans (listed.mpr ⟨something, rfl⟩)
    rw [nothing]
    exact List.mergeSort_nil.symm

end Steps

theorem exists_mem_globalSuspicions {scorer : ChangeScorer} {input : ScoringInput}
    {e : FailedStep × StepSignal} (evidence : e ∈ input.evidenced) {s : Suspect}
    (listed : s ∈ (StepScores.ofStep scorer input e.1 e.2).suspects.ranked) :
    ∃ g ∈ globalSuspicions scorer input, g.suspect = s := by
  have listed' := listed
  rw [(StepScores.ofStep_holds scorer input e.1 e.2).suspects] at listed'
  have merges := SuspectMap.merges_of_mem_ranked listed'
  obtain ⟨g, known, own, -⟩ := merges.best
  have blamed : g.failure ∈ s.failures := (merges.failures _).mpr ⟨g, known, own, rfl⟩
  exact ⟨⟨s, g.failure⟩, mem_globalSuspicions.mpr ⟨e, evidence, listed, blamed⟩, rfl⟩

theorem globalSuspicions_reports (scorer : ChangeScorer) (input : ScoringInput) :
    Suspect.Reports input.changeLogs (fun revision hints =>
        ∃ step signal failure, (step, signal) ∈ input.evidenced ∧
          Contributes scorer input step signal failure revision hints)
      (SuspectMap.ofSuspicions (globalSuspicions scorer input)).ranked := by
  apply SuspectMap.ranked_reports
  · intro g member
    obtain ⟨e, evidence, listed, -⟩ := mem_globalSuspicions.mp member
    obtain ⟨failure, found⟩ := (ofStep_reports scorer input e.1 e.2).given _ listed
    exact ⟨e.1, e.2, failure, evidence, found⟩
  · intro g member
    obtain ⟨e, evidence, listed, -⟩ := mem_globalSuspicions.mp member
    exact (ofStep_reports scorer input e.1 e.2).scored _ listed
  · -- A contribution to a step is covered by the best suspect of that step.
    rintro revision hints ⟨step, signal, failure, evidence, found⟩
    obtain ⟨s, listed, own, -⟩ := (names_ofStep scorer input step signal).mpr ⟨hints, found⟩
    obtain ⟨g, member, rfl⟩ := exists_mem_globalSuspicions evidence listed
    refine ⟨g, member, own, ?_⟩
    apply (ofStep_reports scorer input step signal).greatest _ listed
    rw [own]
    exact ⟨failure, found⟩

/-- Every list of suspects reports the scores that were given for it: the list for all steps those
of all steps, so that its scores are the greatest ones of the steps, and the list of a test those
for the test. -/
theorem scoreSuspects_reports (scorer : ChangeScorer) (input : ScoringInput) :
    Suspect.Reports input.changeLogs (fun revision hints =>
        ∃ step signal failure, (step, signal) ∈ input.evidenced ∧
          Contributes scorer input step signal failure revision hints)
        (scoreSuspects scorer input).suspects ∧
      (∀ s ∈ (scoreSuspects scorer input).suspects,
        (∃ entry ∈ (scoreSuspects scorer input).steps, ∃ t ∈ entry.suspects,
          t.revision = s.revision ∧ t.score = s.score) ∧
        ∀ entry ∈ (scoreSuspects scorer input).steps, ∀ t ∈ entry.suspects,
          t.revision = s.revision → t.score ≤ s.score) ∧
      (∀ entry ∈ (scoreSuspects scorer input).steps, ∀ t ∈ entry.suspects,
        ∃ s ∈ (scoreSuspects scorer input).suspects, s.revision = t.revision) ∧
      List.Forall₂ (fun e entry =>
          Suspect.Reports input.changeLogs (fun revision hints =>
            ∃ failure, Contributes scorer input e.1 e.2 failure revision hints) entry.suspects ∧
          ∀ test, Suspect.Reports input.changeLogs
            (Contributes scorer input e.1 e.2 (.ofTest e.1.stepName test))
            ((entry.tests.get? test).getD []))
        input.evidenced (scoreSuspects scorer input).steps := by
  rw [scoreSuspects_suspects, scoreSuspects_steps]
  refine ⟨globalSuspicions_reports scorer input, ?_, ?_, ?_⟩
  · intro s member
    have merges := SuspectMap.merges_of_mem_ranked member
    constructor
    · obtain ⟨g, known, own, score, -⟩ := merges.best
      obtain ⟨e, evidence, listed, -⟩ := mem_globalSuspicions.mp known
      exact ⟨_, List.mem_map_of_mem evidence, g.suspect, listed, own, score⟩
    · intro entry listing t listed own
      obtain ⟨e, evidence, rfl⟩ := List.mem_map.mp listing
      obtain ⟨g, known, rfl⟩ := exists_mem_globalSuspicions evidence listed
      exact merges.most g known own
  · intro entry listing t listed
    obtain ⟨e, evidence, rfl⟩ := List.mem_map.mp listing
    obtain ⟨g, known, rfl⟩ := exists_mem_globalSuspicions evidence listed
    exact SuspectMap.exists_mem_ranked known
  · rw [List.forall₂_map_right_iff, List.forall₂_same]
    rintro ⟨step, signal⟩ -
    exact ⟨ofStep_reports scorer input step signal, ofTest_reports scorer input step signal⟩

namespace Overlapping

def commit (revision : String) (position : Option Int) (files : List String) : ChangeLog :=
  ⟨revision, position, "", files.map fun f => ⟨.modify, some f, some f⟩, "chromium"⟩

def build (number : Int) (blameList : List String) : Build :=
  ⟨"chromium", "ci", "linux", number, none, .failure, "r", none, blameList,
    .ofList ["compile", "link"], .empty, .empty, none⟩

def mentioning (files : List String) : StepSignal :=
  ⟨{ FailureSignal.empty with files := .ofList (files.map (·, [])) }, .empty⟩

/-- Two steps that have failed since build 8. A commit that was in both builds since then touched
the files of both steps, and three other commits touched a file that both steps have. -/
def input : ScoringInput where
  failedSteps := ["compile", "link"].map fun name => ⟨name, 9, 8, some 7, true, .empty⟩
  builds := .ofList [(8, build 8 ["both", "old"]), (9, build 9 ["both", "new", "unplaced"])]
  changeLogs := .ofList [
    ("both", commit "both" (some 3) ["base/foo.cc", "base/bar.cc"]),
    ("old", commit "old" (some 4) ["base/foo.cc"]),
    ("new", commit "new" (some 5) ["base/foo.cc"]),
    ("unplaced", commit "unplaced" none ["base/foo.cc"])]
  dependencies := .empty
  signals := .ofList [("compile", mentioning ["base/foo.cc"]),
    ("link", mentioning ["base/foo.cc", "base/bar.cc"])]

def scored : ScoredSuspects := scoreSuspects (FileOverlap.hints ⟨.standard⟩) input

def suspect (revision : String) (position : Option Int) (number : Int) (files : List String)
    (step : String) : Suspect where
  repoName := "chromium"
  revision
  commitPosition := position
  buildNumber := number
  score := 2 * files.length
  hints := .ofList (files.map fun file => ("modified " ++ file ++ " (and it was in log)", 2))
  failures := [.ofStep step]

def both (files : List String) (step : String) : Suspect := suspect "both" (some 3) 8 files step

def alike (step : String) : List Suspect :=
  [suspect "new" (some 5) 9 ["base/foo.cc"] step, suspect "old" (some 4) 8 ["base/foo.cc"] step]

def unplaced (step : String) : Suspect := suspect "unplaced" none 9 ["base/foo.cc"] step

theorem best_of_both :
    scored.steps.map (·.suspects) = [
        alike "compile" ++ [both ["base/foo.cc"] "compile", unplaced "compile"],
        both ["base/foo.cc", "base/bar.cc"] "link" :: alike "link" ++ [unplaced "link"]] ∧
      scored.suspects.map (fun s => (s.revision, s.score, s.hints)) =
        (both ["base/foo.cc", "base/bar.cc"] "link" :: alike "link" ++ [unplaced "link"]).map
          (fun s => (s.revision, s.score, s.hints)) ∧
      Suspect.rank scored.suspects.reverse = scored.suspects := by
  let found := scoreSteps (FileOverlap.hints ⟨.standard⟩) input
  have steps : found.map (·.2.suspects.values) = [
      both ["base/foo.cc"] "compile" :: alike "compile" ++ [unplaced "compile"],
      both ["base/foo.cc", "base/bar.cc"] "link" :: alike "link" ++ [unplaced "link"]] := by
    decide +kernel
  have ranked : scored.steps.map (·.suspects) =
      (found.map (·.2.suspects.values)).map Suspect.rank := by
    simp [scored, scoreSuspects, StepScores.ranked, SuspectMap.ranked, found]
  have merged : (mergeSteps found).values.Pairwise Suspect.Outranks := by decide +kernel
  have all : scored.suspects = (mergeSteps found).values :=
    Suspect.rank_eq_of_perm (.refl _) merged
  refine ⟨?_, ?_, (scoreSuspects_reports _ input).1.settled _ (List.reverse_perm _)⟩
  · have compile : Suspect.rank
        (both ["base/foo.cc"] "compile" :: alike "compile" ++ [unplaced "compile"]) =
          alike "compile" ++ [both ["base/foo.cc"] "compile", unplaced "compile"] :=
      Suspect.rank_eq_of_perm (by decide +kernel) (by decide +kernel)
    have link : Suspect.rank
        (both ["base/foo.cc", "base/bar.cc"] "link" :: alike "link" ++ [unplaced "link"]) = _ :=
      Suspect.rank_eq_of_perm (.refl _) (by decide +kernel)
    rw [ranked, steps, List.map_cons, List.map_cons, List.map_nil, compile, link]
  · rw [all]
    decide +kernel

end Overlapping

end CulpritFinding
