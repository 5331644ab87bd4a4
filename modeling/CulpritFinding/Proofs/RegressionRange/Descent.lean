import CulpritFinding.Proofs.PreviousBuilds
import CulpritFinding.Proofs.Supported.Walk
import Mathlib.Order.Interval.Set.Basic

namespace CulpritFinding

/-- The numbers that a walk may look up: at most `count` below `current`, and none below zero. -/
def PreviousBuilds.scope (current : Int) (count : Nat) : Set Int :=
  {n | 0 ≤ n ∧ current - count ≤ n ∧ n < current}

/-- The numbers that a walk can see: those above the greatest one that cannot be looked up. -/
def PreviousBuilds.visible (lookUp : Int → Except ProviderError (Option Build)) (current : Int)
    (count : Nat) : Set Int :=
  {n ∈ scope current count | ∀ m ∈ scope current count, ∀ e, lookUp m = .error e → m < n}

namespace RegressionRange

variable {lookUp : Int → Id (Except ProviderError (Option Build))} {r : RegressionRange}

theorem extend_of_step {walk walk' : PreviousBuilds} (same : walk.step lookUp = walk'.step lookUp) :
    r.extend lookUp walk = r.extend lookUp walk' := by
  cases isOpen : r.isOpen with
  | false => rw [extend_of_closed isOpen, extend_of_closed isOpen]
  | true =>
    by_cases found : ∃ build rest, walk.step lookUp = (.ok (some build), rest)
    · obtain ⟨build, rest, step⟩ := found
      rw [extend_of_build isOpen step, extend_of_build isOpen (same.symm.trans step)]
    · have ended : ∀ build rest, walk.step lookUp ≠ (.ok (some build), rest) :=
        fun build rest step => found ⟨build, rest, step⟩
      rw [extend_of_end ended, extend_of_end (same ▸ ended)]

theorem extend_succ (isOpen : r.isOpen = true) {n : Int} (valid : 0 ≤ n) (remaining : Nat) :
    r.extend lookUp ⟨n, remaining + 1⟩ =
      match lookUp n with
      | .error _ => r
      | .ok none => r.extend lookUp ⟨n - 1, remaining⟩
      | .ok (some build) => (r.observe build).extend lookUp ⟨n - 1, remaining⟩ := by
  have known : ¬ n < 0 := by omega
  match answer : lookUp n with
  | .error e =>
    apply extend_of_end
    intro build rest found
    simp only [PreviousBuilds.step, PreviousBuilds.next, known, answer, bind, pure, if_false]
      at found
    cases found
  | .ok none =>
    apply extend_of_step
    simp [PreviousBuilds.step, PreviousBuilds.next, known, answer, bind]
  | .ok (some build) =>
    apply extend_of_build isOpen
    simp [PreviousBuilds.step, PreviousBuilds.next, known, answer, bind, pure]

theorem extend_of_exhausted {n : Int} {remaining : Nat} (ended : remaining = 0 ∨ n < 0) :
    r.extend lookUp ⟨n, remaining⟩ = r := by
  apply extend_of_end
  intro build rest found
  rw [PreviousBuilds.step, PreviousBuilds.next_ended ended] at found
  cases found

structure Descended (lookUp : Int → Except ProviderError (Option Build)) (current : Int)
    (count : Nat) (floor : Int) : Prop where
  floor_le : floor ≤ current
  scope : ∀ n, floor ≤ n → n < current → n ∈ PreviousBuilds.scope current count
  answered : ∀ n, floor ≤ n → n < current → ∃ found, lookUp n = .ok found

theorem Descended.next {current n : Int} {count : Nat} {found : Option Build}
    (descended : Descended lookUp current count (n + 1))
    (earlier : n ∈ PreviousBuilds.scope current count) (answer : lookUp n = .ok found) :
    Descended lookUp current count n := by
  have below : n < current := earlier.2.2
  constructor
  · omega
  · intro m from_n before
    by_cases same : m = n
    · rw [same]
      exact earlier
    · exact descended.scope m (by omega) before
  · intro m from_n before
    by_cases same : m = n
    · rw [same]
      exact ⟨found, answer⟩
    · exact descended.answered m (by omega) before

/-- A walk that ends although some step has no known pass has come to its bound, or to a number that
cannot be looked up. -/
def Halted (lookUp : Int → Except ProviderError (Option Build)) (current : Int) (count : Nat)
    (floor : Int) (r : RegressionRange) : Prop :=
  r.isOpen = true →
    floor - 1 ∉ PreviousBuilds.scope current count ∨ ∃ e, lookUp (floor - 1) = .error e

section Descending

variable {current : Int} {count : Nat} {holds : Int → RegressionRange → Prop}
  (gap : ∀ n r, n < current → r.isOpen = true → lookUp n = .ok none →
    holds (n + 1) r → holds n r)
  (seen : ∀ n r build, n < current → r.isOpen = true → lookUp n = .ok (some build) →
    holds (n + 1) r → holds n (r.observe build))

include gap seen

theorem extend_descends_from {remaining : Nat} {n : Int} {r : RegressionRange}
    (bound : n + 1 - remaining = current - count)
    (descended : Descended lookUp current count (n + 1)) (held : holds (n + 1) r) :
    ∃ floor, Descended lookUp current count floor ∧ holds floor (r.extend lookUp ⟨n, remaining⟩) ∧
      Halted lookUp current count floor (r.extend lookUp ⟨n, remaining⟩) := by
  -- The induction is on how many numbers are left; those from `n + 1` on are behind.
  induction remaining generalizing n r with
  | zero =>
    refine ⟨n + 1, descended, ?_⟩
    rw [extend_of_exhausted (.inl rfl)]
    refine ⟨held, fun _ => .inl fun within => ?_⟩
    have := within.2.1
    omega
  | succ remaining ih =>
    have below : n < current := by
      have := descended.floor_le
      omega
    have stays : n + 1 - 1 = n := by omega
    have onwards : n - 1 + 1 = n := by omega
    cases isOpen : r.isOpen with
    | false =>
      refine ⟨n + 1, descended, ?_⟩
      rw [extend_of_closed isOpen]
      exact ⟨held, fun stillOpen => by cases isOpen.symm.trans stillOpen⟩
    | true =>
      by_cases negative : n < 0
      · refine ⟨n + 1, descended, ?_⟩
        rw [extend_of_exhausted (.inr negative)]
        refine ⟨held, fun _ => .inl fun within => ?_⟩
        have := within.1
        omega
      · have valid : 0 ≤ n := by omega
        have within : n ∈ PreviousBuilds.scope current count := ⟨valid, by omega, below⟩
        have step : r.extend lookUp ⟨n, remaining + 1⟩ = _ := extend_succ isOpen valid remaining
        match answer : lookUp n with
        | .error e =>
          simp only [answer] at step
          refine ⟨n + 1, descended, ?_⟩
          rw [step]
          exact ⟨held, fun _ => .inr ⟨e, by rw [stays, answer]⟩⟩
        | .ok none =>
          simp only [answer] at step
          rw [step]
          apply ih
          · omega
          · rw [onwards]
            exact descended.next within answer
          · rw [onwards]
            exact gap n r below isOpen answer held
        | .ok (some build) =>
          simp only [answer] at step
          rw [step]
          apply ih
          · omega
          · rw [onwards]
            exact descended.next within answer
          · rw [onwards]
            exact seen n r build below isOpen answer held

theorem extend_descends (start : holds current r) :
    ∃ floor, Descended lookUp current count floor ∧
      holds floor (r.extend lookUp ⟨current - 1, count⟩) ∧
      Halted lookUp current count floor (r.extend lookUp ⟨current - 1, count⟩) := by
  have top : current - 1 + 1 = current := by omega
  apply extend_descends_from gap seen
  · omega
  · rw [top]
    exact ⟨Int.le_refl _, fun n from_top before => by omega, fun n from_top before => by omega⟩
  · rw [top]
    exact start

end Descending

end RegressionRange

end CulpritFinding
