import CulpritFinding.History

namespace CulpritFinding

abbrev BuildLookUp (σ : Type) := Int → StateM σ (Except ProviderError (Option Build))

namespace BuildLookUp

variable {σ : Type}

def recording (lookUp : BuildLookUp σ) : BuildLookUp (List Int × σ) := fun number state =>
  let (outcome, s) := (lookUp number).run state.2
  (outcome, state.1 ++ [number], s)

theorem mapM_recording (lookUp : BuildLookUp σ) (numbers known : List Int) (s : σ) :
    (numbers.mapM lookUp.recording).run (known, s) =
      let outcomes := (numbers.mapM lookUp).run s
      (outcomes.1, known ++ numbers, outcomes.2) := by
  induction numbers generalizing known s with
  | nil =>
    show ([], known, s) = ([], known ++ [], s)
    rw [List.append_nil]
  | cons number rest ih =>
    simp only [List.mapM_cons, StateT.run_bind, StateT.run_pure]
    have first : (lookUp.recording number).run (known, s) =
      (((lookUp number).run s).1, known ++ [number], ((lookUp number).run s).2) := rfl
    rw [first]
    dsimp only [bind, pure]
    rw [ih, List.append_assoc]
    rfl

end BuildLookUp

namespace PreviousBuilds

variable {σ : Type} {lookUp : BuildLookUp σ} {number : Int} {remaining : Nat} {s : σ}

def answer? : Except ProviderError (Option Build) → Option (Except ProviderError Build)
  | .ok none => none
  | .ok (some build) => some (.ok build)
  | .error e => some (.error e)

theorem run_next_succ (valid : 0 ≤ number) :
    (next lookUp number (remaining + 1)).run s =
      let told := (lookUp number).run s
      match answer? told.1 with
      | none => (next lookUp (number - 1) remaining).run told.2
      | some _ => ((told.1, ⟨number - 1, remaining⟩), told.2) := by
  have known : ¬ number < 0 := by omega
  simp only [next, known, if_false, StateT.run_bind]
  dsimp only [bind]
  rcases (lookUp number).run s with ⟨_ | _ | _, _⟩ <;> rfl

theorem next_ended (ended : remaining = 0 ∨ number < 0) {m : Type → Type} [Monad m]
    (lookUp : Int → m (Except ProviderError (Option Build))) :
    next lookUp number remaining = pure (.ok none, ⟨number, remaining⟩) := by
  rcases ended with rfl | negative
  · rfl
  · cases remaining with
    | zero => rfl
    | succ remaining => simp only [next, negative, if_true]

theorem remaining_run_next_lt
    (going : (answer? ((next lookUp number remaining).run s).1.1).isSome) :
    ((next lookUp number remaining).run s).1.2.remaining < remaining := by
  induction remaining generalizing number s with
  | zero =>
    rw [next_ended (.inl rfl)] at going
    cases going
  | succ remaining ih =>
    by_cases negative : number < 0
    · rw [next_ended (.inr negative)] at going
      cases going
    · rw [run_next_succ (by omega)] at going ⊢
      dsimp only at going ⊢
      split at going
      · have fewer := ih going
        omega
      · exact Nat.lt_succ_self _

structure Drained (σ : Type) where
  answers : List (Except ProviderError Build)
  walk : PreviousBuilds
  state : σ

/-- Calls a walk, and after each build and each error again, until it answers for the first time
that there is no build. -/
def drain (lookUp : BuildLookUp σ) (walk : PreviousBuilds) (s : σ) : Drained σ :=
  let called := (walk.step lookUp).run s
  match _answered : answer? called.1.1 with
  | none => ⟨[], called.1.2, called.2⟩
  | some answer =>
    let drained := drain lookUp called.1.2 called.2
    { drained with answers := answer :: drained.answers }
termination_by walk.remaining
decreasing_by exact remaining_run_next_lt (Option.isSome_of_eq_some _answered)

theorem drain_of_step {walk walk' : PreviousBuilds} {s' : σ}
    (same : (walk.step lookUp).run s = (walk'.step lookUp).run s') :
    drain lookUp walk s = drain lookUp walk' s' := by
  unfold drain
  rw [same]

theorem drain_of_answer {walk rest : PreviousBuilds} {s' : σ}
    {outcome : Except ProviderError (Option Build)} {answer : Except ProviderError Build}
    (called : (walk.step lookUp).run s = ((outcome, rest), s'))
    (answered : answer? outcome = some answer) :
    drain lookUp walk s =
      { drain lookUp rest s' with answers := answer :: (drain lookUp rest s').answers } := by
  rw [drain, called]
  dsimp only
  split
  · rename_i nothing
    cases nothing.symm.trans answered
  · rename_i other
    cases other.symm.trans answered
    rfl

theorem drain_succ (valid : 0 ≤ number) :
    drain lookUp ⟨number, remaining + 1⟩ s =
      let told := (lookUp number).run s
      let drained := drain lookUp ⟨number - 1, remaining⟩ told.2
      { drained with answers := (answer? told.1).toList ++ drained.answers } := by
  have called : (step ⟨number, remaining + 1⟩ lookUp).run s = _ := run_next_succ valid
  dsimp only at called ⊢
  cases answered : answer? ((lookUp number).run s).1 with
  | none =>
    rw [answered] at called
    exact drain_of_step called
  | some answer =>
    rw [answered] at called
    exact drain_of_answer called answered

theorem drain_ended (ended : remaining = 0 ∨ number < 0) :
    drain lookUp ⟨number, remaining⟩ s = ⟨[], ⟨number, remaining⟩, s⟩ := by
  have called : step ⟨number, remaining⟩ lookUp = _ := next_ended ended lookUp
  rw [drain, called]
  rfl

/-- The numbers that a walk looks up. -/
def numbers : (number : Int) → (remaining : Nat) → List Int
  | _, 0 => []
  | number, remaining + 1 =>
    if number < 0 then [] else number :: numbers (number - 1) remaining

theorem mem_numbers {n : Int} :
    n ∈ numbers number remaining ↔ max 0 (number + 1 - remaining) ≤ n ∧ n ≤ number := by
  induction remaining generalizing number with
  | zero =>
    simp only [numbers, List.not_mem_nil, false_iff]
    omega
  | succ remaining ih =>
    unfold numbers
    split
    · simp only [List.not_mem_nil, false_iff]
      omega
    · rw [List.mem_cons, ih]
      omega

theorem numbers_descend : (numbers number remaining).Pairwise (· > ·) := by
  induction remaining generalizing number with
  | zero => exact .nil
  | succ remaining ih =>
    unfold numbers
    split
    · exact .nil
    · refine .cons (fun n member => ?_) ih
      have := (mem_numbers.mp member).2
      omega

/-- A walk that is over: any further call answers that there is no build, without a look-up, and
leaves it as it is. -/
def IsOver (walk : PreviousBuilds) : Prop :=
  ∀ {m : Type → Type} [Monad m] (lookUp : Int → m (Except ProviderError (Option Build))),
    walk.step lookUp = pure (.ok none, walk)

theorem drain_eq (lookUp : BuildLookUp σ) (number : Int) (remaining : Nat) (s : σ) :
    ∃ rest : PreviousBuilds, rest.IsOver ∧
      drain lookUp ⟨number, remaining⟩ s =
        let outcomes := ((numbers number remaining).mapM lookUp).run s
        ⟨outcomes.1.filterMap answer?, rest, outcomes.2⟩ := by
  induction remaining generalizing number s with
  | zero => exact ⟨⟨number, 0⟩, next_ended (.inl rfl), drain_ended (.inl rfl)⟩
  | succ remaining ih =>
    unfold numbers
    split
    · rename_i negative
      exact ⟨⟨number, remaining + 1⟩, next_ended (.inr negative), drain_ended (.inr negative)⟩
    · obtain ⟨rest, isOver, drained⟩ := ih (number - 1) ((lookUp number).run s).2
      refine ⟨rest, isOver, ?_⟩
      rw [drain_succ (by omega)]
      dsimp only at drained ⊢
      rw [drained]
      simp only [List.mapM_cons, StateT.run_bind, StateT.run_pure]
      dsimp only [bind, pure]
      rw [List.filterMap_cons]
      cases answer? ((lookUp number).run s).1 <;> rfl

theorem before?_eq_some {count : Nat} {walk : PreviousBuilds} :
    before? number count = some walk ↔
      fitsInt64 (number - 1) = true ∧ walk = ⟨number - 1, count⟩ := by
  unfold before? int64?
  by_cases fits : fitsInt64 (number - 1) = true <;> simp [fits, eq_comm]

/-- There is a walk below a start as long as the number below it fits. Whatever it is told, calling
it until it answers for the first time that there is no build looks up each number below its start
that is within both bounds, one after the other and from the highest one down, and no other number.
It answers with what it is told about each, but for those without a build, and is over: further
calls look nothing up. -/
theorem drain_walksBounds (lookUp : BuildLookUp σ) (start : Int) (count : Nat) (s : σ) :
    (before? start count).isSome = fitsInt64 (start - 1) ∧
      ∀ walk ∈ before? start count,
        let drained := drain lookUp.recording walk ([], s)
        let lookedUp := drained.state.1
        let told := (lookedUp.mapM lookUp).run s
        (∀ n, n ∈ lookedUp ↔ max 0 (start - count) ≤ n ∧ n ≤ start - 1) ∧
          lookedUp.Pairwise (· > ·) ∧ drained.answers = told.1.filterMap answer? ∧
          drained.state.2 = told.2 ∧ drained.walk.IsOver := by
  refine ⟨?_, fun walk begun => ?_⟩
  · rw [Bool.eq_iff_iff, Option.isSome_iff_exists]
    simp only [before?_eq_some, exists_and_left, exists_eq, and_true]
  obtain ⟨-, rfl⟩ := before?_eq_some.mp begun
  intro drained lookedUp told
  obtain ⟨rest, isOver, exhausted⟩ := drain_eq lookUp.recording (start - 1) count ([], s)
  dsimp only at exhausted
  rw [BuildLookUp.mapM_recording] at exhausted
  have same : drained = _ := exhausted
  have listed : lookedUp = numbers (start - 1) count := congrArg (·.state.1) same
  have walked : told = ((numbers (start - 1) count).mapM lookUp).run s := by rw [← listed]
  refine ⟨fun n => ?_, ?_, ?_, ?_, ?_⟩
  · rw [listed, mem_numbers]
    omega
  · rw [listed]
    exact numbers_descend
  · rw [same, walked]
  · rw [same, walked]
  · rw [same]
    exact isOver

namespace Least

def nothing : BuildLookUp Unit := fun _ => pure (.ok none)

theorem no_walk_below_least :
    before? (-9223372036854775808) 20 = none ∧
      ∃ walk ∈ before? 3 20, ∀ n,
        n ∈ (drain nothing.recording walk ([], ())).state.1 ↔ max 0 (3 - 20) ≤ n ∧ n ≤ 3 - 1 := by
  obtain ⟨least, -⟩ := drain_walksBounds nothing (-9223372036854775808) 20 ()
  obtain ⟨-, bounds⟩ := drain_walksBounds nothing 3 20 ()
  have none := Option.isNone_iff_eq_none.mp (Option.isSome_eq_false_iff.mp least)
  exact ⟨none, _, rfl, (bounds _ rfl).1⟩

end Least

end PreviousBuilds

end CulpritFinding
