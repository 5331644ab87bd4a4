import CulpritFinding.Proofs.RegressionRange
import CulpritFinding.Proofs.Run
import Mathlib.Data.List.Nodup
import Mathlib.Order.Bounds.Defs

namespace CulpritFinding

/-- The builds in which some steps were last seen to pass. -/
def lastPasses (steps : List FailedStep) : Set Int :=
  {pass | ∃ step ∈ steps, step.lastPass = some pass}

theorem min?_lastPass_eq_some {steps : List FailedStep} {oldest : Int} :
    (steps.filterMap (·.lastPass)).min? = some oldest ↔ IsLeast (lastPasses steps) oldest := by
  rw [List.min?_eq_some_iff, List.mem_filterMap]
  constructor
  · rintro ⟨member, least⟩
    exact ⟨member, fun pass passed => least pass (List.mem_filterMap.mpr passed)⟩
  · rintro ⟨member, least⟩
    exact ⟨member, fun pass passed => least (List.mem_filterMap.mp passed)⟩

theorem oldestPass_of_find? {steps : List FailedStep} {step : FailedStep}
    (first : steps.find? (·.lastPass.isNone) = some step) :
    oldestPass steps = .error (.noGoodRevision step.stepName) := by
  induction steps with
  | nil => cases first
  | cons head rest ih =>
    unfold oldestPass
    cases known : head.lastPass with
    | none =>
      rw [List.find?_cons_of_pos (by rw [known]; rfl)] at first
      cases first
      rfl
    | some pass =>
      rw [List.find?_cons_of_neg (by rw [known]; exact Bool.false_ne_true)] at first
      simp only [ih first]
      rfl

namespace FailureSignal

/-- Whether the output nodes of a log stand for what did not build. -/
def PrefersNodes (s : FailureSignal) (config : Config) : Prop :=
  config.useNinjaOutputLog = true ∧ ∃ node, node ∈ s.failedOutputNodes.toList

inductive Wants (s : FailureSignal) (config : Config) (project target : String) : Prop
  | node (nodes : s.PrefersNodes config) (failed : target ∈ s.failedOutputNodes.toList)
  | linked (targets : ¬ s.PrefersNodes config) (failed : ⟨none, target⟩ ∈ s.failedTargets)
  | compiled (targets : ¬ s.PrefersNodes config)
      (strict : project ∈ config.strictRegexProjects.toList) {source : String}
      (failed : ⟨some source, target⟩ ∈ s.failedTargets)

theorem prefersNodes_iff {s : FailureSignal} {config : Config} :
    s.PrefersNodes config ↔ (config.useNinjaOutputLog && !s.failedOutputNodes.isEmpty) = true := by
  unfold PrefersNodes
  rw [Bool.and_eq_true, Bool.not_eq_true', ← Bool.not_eq_true, SortedSet.isEmpty_iff, not_forall]
  simp only [not_not]

end FailureSignal

theorem mem_compileTargetsOf {config : Config} {project target : String} {s : FailureSignal} :
    target ∈ compileTargetsOf config (config.usesStrictRegex project) s ↔
      s.Wants config project target := by
  have strict : config.usesStrictRegex project = true ↔
      project ∈ config.strictRegexProjects.toList := by
    simp [Config.usesStrictRegex, SortedSet.contains]
  unfold compileTargetsOf
  split
  · rename_i nodes
    rw [← FailureSignal.prefersNodes_iff] at nodes
    constructor
    · exact .node nodes
    · intro wants
      cases wants with
      | node _ failed => exact failed
      | linked targets | compiled targets => exact absurd nodes targets
  · rename_i targets
    rw [← FailureSignal.prefersNodes_iff] at targets
    rw [List.mem_map]
    constructor
    · rintro ⟨⟨source, target⟩, kept, rfl⟩
      obtain ⟨failed, counts⟩ := List.mem_filter.mp kept
      cases source with
      | none => exact .linked targets failed
      | some source => exact .compiled targets (strict.mp (by simpa using counts)) failed
    · intro wants
      cases wants with
      | node nodes => exact absurd nodes targets
      | linked _ failed => exact ⟨_, List.mem_filter.mpr ⟨failed, rfl⟩, rfl⟩
      | compiled _ listed failed =>
        exact ⟨_, List.mem_filter.mpr ⟨failed, by simpa using strict.mpr listed⟩, rfl⟩

theorem mem_compileTargets {config : Config} {project target : String} {steps : List FailedStep}
    {signals : FailureSignals} :
    target ∈ (compileTargets config project steps signals).toList ↔
      ∃ step ∈ steps, ∃ s, signals.get? step.stepName = some s ∧
        s.signal.Wants config project target := by
  unfold compileTargets
  rw [SortedSet.mem_ofList, List.mem_flatMap]
  simp only [List.mem_filterMap, mem_compileTargetsOf]
  constructor
  · rintro ⟨s, ⟨step, member, known⟩, wants⟩
    exact ⟨step, member, s, known, wants⟩
  · rintro ⟨step, member, s, known, wants⟩
    exact ⟨s, ⟨step, member, known⟩, wants⟩

theorem SortedMap.get?_ofList_of_distinct {κ ν : Type} [SortKey κ] [DecidableEq κ]
    {entries : List (κ × ν)} (distinct : (entries.map (·.1)).Nodup) {key : κ} {value : ν} :
    (ofList entries).get? key = some value ↔ (key, value) ∈ entries := by
  unfold ofList
  rw [get_foldl_put get?_insert _ distinct, get?_empty, Option.or_none, Option.map_eq_some_iff]
  constructor
  · rintro ⟨e, found, rfl⟩
    have own : e.1 = key := by simpa using List.find?_some found
    exact own ▸ List.mem_of_find?_eq_some found
  · intro member
    obtain ⟨e, found⟩ := Option.isSome_iff_exists.mp
      (List.find?_isSome.mpr ⟨(key, value), member, decide_eq_true rfl⟩ :
        (entries.find? fun e => e.1 = key).isSome = true)
    have own : e.1 = key := by simpa using List.find?_some found
    have same := List.inj_on_of_nodup_map distinct (List.mem_of_find?_eq_some found) member own
    exact ⟨e, found, congrArg Prod.snd same⟩

/-- A range that covers some steps: no step was seen to pass before it starts, it builds what the
evidence on the steps asks for, or else it runs their tests. -/
structure TryJobRange.Covers (range : TryJobRange) (config : Config) (kind : FailureKind)
    (current : Build) (steps : List FailedStep) (builds : SortedMap Int Build)
    (signals : FailureSignals) : Prop where
  good : ∃ oldest good, IsLeast (lastPasses steps) oldest ∧
    (∀ step ∈ steps, ∃ pass, step.lastPass = some pass ∧ oldest ≤ pass) ∧
    builds.get? oldest = some good ∧ range.goodRevision = good.revision
  bad : range.badRevision = current.revision
  ascending : range.compileTargets.Pairwise fun a b => SortKey.before a b = true
  targets : ∀ target, target ∈ range.compileTargets ↔ kind = .compile ∧
    ∃ step ∈ steps, ∃ s, signals.get? step.stepName = some s ∧
      s.signal.Wants config current.project target
  tests : ∀ name tests, range.tests.get? name = some tests ↔ kind = .test ∧
    ∃ step ∈ steps, step.stepName = name ∧ step.tests.keys = tests

section

variable {config : Config} {kind : FailureKind} {current : Build} {steps : List FailedStep}
  {builds : SortedMap Int Build} {signals : FailureSignals}

theorem exists_tryJobRange_covers (distinct : (steps.map (·.stepName)).Nodup)
    (passed : ∀ step ∈ steps, step.lastPass.isSome) {oldest : Int}
    (least : IsLeast (lastPasses steps) oldest) {good : Build}
    (kept : builds.get? oldest = some good) :
    ∃ range, tryJobRange config kind current steps builds signals = .ok range ∧
      range.Covers config kind current steps builds signals := by
  unfold tryJobRange
  rw [oldestPass_of_passed passed, min?_lastPass_eq_some.mpr least]
  dsimp only [bind, Except.bind]
  rw [Option.bind_some, kept]
  refine ⟨_, rfl, ⟨oldest, good, least, fun step member => ?_, kept, rfl⟩, rfl, ?ascending,
    ?targets, ?tests⟩
  · obtain ⟨pass, known⟩ := Option.isSome_iff_exists.mp (passed step member)
    exact ⟨pass, known, least.2 ⟨step, member, known⟩⟩
  case ascending =>
    cases kind with
    | compile => exact (compileTargets config current.project steps signals).ascending
    | test => exact .nil
  case targets =>
    intro target
    cases kind with
    | compile =>
      rw [and_iff_right rfl]
      exact mem_compileTargets
    | test => simp
  case tests =>
    intro name tests
    cases kind with
    | compile => simp [SortedMap.get?_empty]
    | test =>
      have distinct : ((steps.map fun step => (step.stepName, step.tests.keys)).map
          (·.1)).Nodup := by rwa [List.map_map]
      rw [SortedMap.get?_ofList_of_distinct distinct, List.mem_map]
      simp [Prod.ext_iff]

theorem tryJobRange_of_unpassed {step : FailedStep}
    (missing : steps.find? (·.lastPass.isNone) = some step) :
    tryJobRange config kind current steps builds signals =
      .error (.noGoodRevision step.stepName) := by
  unfold tryJobRange
  rw [oldestPass_of_find? missing]
  rfl

theorem tryJobRange_of_unknown (something : steps ≠ [])
    (passed : ∀ step ∈ steps, step.lastPass.isSome)
    (unknown : ∀ oldest, IsLeast (lastPasses steps) oldest → builds.get? oldest = none) :
    tryJobRange config kind current steps builds signals =
      .error (.noGoodRevision (steps.head something).stepName) := by
  have lost : (steps.filterMap (·.lastPass)).min?.bind builds.get? = none := by
    cases least : (steps.filterMap (·.lastPass)).min? with
    | none => rfl
    | some oldest => exact unknown oldest (min?_lastPass_eq_some.mp least)
  unfold tryJobRange
  rw [oldestPass_of_passed passed]
  dsimp only [bind, Except.bind]
  rw [lost]
  obtain ⟨first, rest, rfl⟩ := List.exists_cons_of_ne_nil something
  rfl

end

/-- There is a range just if every step was seen to pass and the oldest of these builds is known,
and then it covers the steps. Otherwise the first step that was never seen to pass is named, or else
the first one. -/
theorem tryJobRange_covers (config : Config) (kind : FailureKind) (current : Build)
    {steps : List FailedStep} (something : steps ≠ [])
    (distinct : (steps.map (·.stepName)).Nodup) (builds : SortedMap Int Build)
    (signals : FailureSignals) :
    let Known := (∀ step ∈ steps, step.lastPass.isSome) ∧
      ∃ oldest, IsLeast (lastPasses steps) oldest ∧ (builds.get? oldest).isSome
    (Known → ∃ range, tryJobRange config kind current steps builds signals = .ok range ∧
      range.Covers config kind current steps builds signals) ∧
    (¬ Known → tryJobRange config kind current steps builds signals =
      .error (.noGoodRevision
        ((steps.find? (·.lastPass.isNone)).getD (steps.head something)).stepName)) := by
  intro Known
  constructor
  · rintro ⟨passed, oldest, least, known⟩
    obtain ⟨good, kept⟩ := Option.isSome_iff_exists.mp known
    exact exists_tryJobRange_covers distinct passed least kept
  · intro unknown
    cases missing : steps.find? (·.lastPass.isNone) with
    | some step => exact tryJobRange_of_unpassed missing
    | none =>
      have passed : ∀ step ∈ steps, step.lastPass.isSome := by
        simpa [← Option.ne_none_iff_isSome] using missing
      refine tryJobRange_of_unknown something passed fun oldest least => ?_
      exact Option.not_isSome_iff_eq_none.mp fun known => unknown ⟨passed, oldest, least, known⟩

namespace Linked

def compile : FailedStep := { FailedStep.new "compile" 2 true with lastPass := some 1 }

def link : FailedStep := { FailedStep.new "link" 2 true with lastPass := some 0 }

def builds : SortedMap Int Build :=
  .ofList [(0, brokenBuilds[0]), (1, { brokenBuilds[0] with buildNumber := 1, revision := "late" })]

def current : Build :=
  ⟨"chromium", "ci", "linux", 2, none, .failure, "bad", none, ["bad"], .ofList ["compile", "link"],
    .empty, .empty, none⟩

def signals : FailureSignals := .ofList
  [("compile", ⟨{ FailureSignal.empty with
      failedOutputNodes := .ofList ["obj/base/foo.o"]
      failedTargets := [⟨none, "obj/base/foo.o"⟩, ⟨none, "base"⟩] }, .empty⟩),
   ("link", ⟨{ FailureSignal.empty with
      failedTargets := [⟨some "base/bar.cc", "obj/base/bar.o"⟩, ⟨none, "chrome"⟩] }, .empty⟩)]

theorem covers_both_steps :
    [compile, link] ≠ [] ∧ ([compile, link].map (·.stepName)).Nodup ∧
      ∃ range, tryJobRange .standard .compile current [compile, link] builds signals = .ok range ∧
        range.Covers .standard .compile current [compile, link] builds signals ∧
        range.goodRevision = "good" ∧ range.compileTargets = ["chrome", "obj/base/foo.o"] := by
  have distinct : ([compile, link].map (·.stepName)).Nodup := by decide
  have oldest : IsLeast (lastPasses [compile, link]) 0 := min?_lastPass_eq_some.mp rfl
  obtain ⟨range, found, covers⟩ := (tryJobRange_covers .standard .compile current
    (List.cons_ne_nil compile [link]) distinct builds signals).1 ⟨by decide, 0, oldest, by decide⟩
  refine ⟨List.cons_ne_nil _ _, distinct, range, found, covers, ?_⟩
  have known : tryJobRange .standard .compile current [compile, link] builds signals =
      .ok ⟨"good", "bad", ["chrome", "obj/base/foo.o"], .empty⟩ := by decide +kernel
  cases found.symm.trans known
  exact ⟨rfl, rfl⟩

end Linked

end CulpritFinding
