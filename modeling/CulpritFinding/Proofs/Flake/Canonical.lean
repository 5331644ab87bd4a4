import CulpritFinding.Proofs.Flake.StepName
import CulpritFinding.Proofs.Flake.TestName

namespace CulpritFinding

namespace FlakeName

theorem stepName_stepName_iff (step : String) :
    stepName (stepName step) = stepName step ↔
      ofStep (ofStep step.toList) = ofStep step.toList := by
  unfold stepName
  rw [String.toList_ofList]
  exact String.ofList_inj

theorem testName_testName_iff (test : String) :
    testName (testName test) = testName test ↔
      ofTest (ofTest test.toList) = ofTest test.toList := by
  unfold testName
  rw [String.toList_ofList]
  exact String.ofList_inj

theorem length_stepName_le (step : String) :
    (stepName step).toList.length ≤ step.toList.length := by
  unfold stepName
  rw [String.toList_ofList]
  exact length_ofStep_le step.toList

theorem length_testName_le (test : String) :
    (testName test).toList.length ≤ test.toList.length := by
  unfold testName
  rw [String.toList_ofList]
  exact length_ofTest_le test.toList

theorem key_eq_iff (step test : String) :
    key (stepName step) (testName test) = key step test ↔
      stepName (stepName step) = stepName step ∧ testName (testName test) = testName test := by
  constructor
  · intro same
    have chars := congrArg String.toList same
    unfold key at chars
    simp only [String.toList_append, List.append_assoc] at chars
    have size := congrArg List.length chars
    simp only [List.length_append] at size
    have shorter := length_stepName_le (stepName step)
    have shorter' := length_testName_le (testName test)
    obtain ⟨steps, rest⟩ := List.append_inj chars (by omega)
    exact ⟨String.toList_inj.mp steps, String.toList_inj.mp (List.append_cancel_left rest)⟩
  · rintro ⟨steps, tests⟩
    unfold key
    rw [steps, tests]

/-- A name of a step is canonical without its marks unless a platform is left at its end, which
takes a line break in the name, or it had two remarks behind one another; a name of a test, unless
it had two parameters behind one another. Marks in front of a case and instantiations leave none of
their kind. The key is that of the names without marks just if both are canonical. -/
theorem canonical_iff (step test : String) :
    (stepName (stepName step) = stepName step ↔
      ¬ EndsIn IsPlatform (stepName step).toList ∧
        ¬ EndsIn (Twice IsRemark) (platformSuffix.removeFirst step.toList)) ∧
    ('\n' ∉ step.toList → ¬ EndsIn IsPlatform (stepName step).toList) ∧
    (testName (testName test) = testName test ↔ ¬ EndsIn (Twice IsParameter) test.toList) ∧
    (key (stepName step) (testName test) = key step test ↔
      stepName (stepName step) = stepName step ∧ testName (testName test) = testName test) := by
  have chars : (stepName step).toList = ofStep step.toList := String.toList_ofList
  refine ⟨?_, fun line => ?_, ?_, key_eq_iff step test⟩
  · rw [stepName_stepName_iff, ofStep_ofStep_iff, chars]
  · rw [chars]
    exact no_platform_in_ofStep line
  · rw [testName_testName_iff, ofTest_ofTest_iff]

namespace Stacked

def step : String := "browser_tests (with patch) (with patch)"

def test : String := "All/Suite.PRE_Case/3/1"

theorem marks_left : '\n' ∉ step.toList ∧ ¬ EndsIn IsPlatform (stepName step).toList ∧
    stepName step = "browser_tests (with patch)" ∧ stepName (stepName step) ≠ stepName step ∧
    testName test = "Suite.Case/3" ∧ testName (testName test) ≠ testName test ∧
    key (stepName step) (testName test) ≠ key step test := by
  have line : '\n' ∉ step.toList := by decide +kernel
  obtain ⟨stepStays, noPlatform, testStays, keyStays⟩ := canonical_iff step test
  have remark (trail : List Char) (blank : ∀ b ∈ trail, isBlank b = true) :
      IsRemark ("(with patch)".toList ++ trail) :=
    ⟨"with ".toList, trail, by simp, by simp, blank⟩
  have remarks : EndsIn (Twice IsRemark) (platformSuffix.removeFirst step.toList) := by
    have stays : platformSuffix.removeFirst step.toList = step.toList := by decide +kernel
    rw [stays]
    exact ⟨"browser_tests ".toList, "(with patch) (with patch)".toList, by decide +kernel,
      "(with patch) ".toList, "(with patch)".toList, by decide +kernel,
      remark [' '] (List.forall_mem_singleton.mpr rfl), remark [] (List.forall_mem_nil _)⟩
  have parameter (digit : Char) (decimal : isDecimalDigit digit = true) :
      IsParameter ['/', digit] :=
    ⟨[digit], rfl, List.cons_ne_nil digit [], List.forall_mem_singleton.mpr decimal⟩
  have parameters : EndsIn (Twice IsParameter) test.toList :=
    ⟨"All/Suite.PRE_Case".toList, "/3/1".toList, by decide +kernel, ['/', '3'], ['/', '1'],
      by decide +kernel, parameter '3' rfl, parameter '1' rfl⟩
  have moves : stepName (stepName step) ≠ stepName step := fun same =>
    (stepStays.mp same).2 remarks
  exact ⟨line, noPlatform line, by decide +kernel, moves, by decide +kernel,
    fun same => testStays.mp same parameters, fun same => moves (keyStays.mp same).1⟩

end Stacked

example : key "browser_tests (with patch) on Mac-10.15" "All/Suite.PRE_MANUAL_Case/3" =
    "browser_tests::Suite.Case" := by decide +kernel

end FlakeName

end CulpritFinding
