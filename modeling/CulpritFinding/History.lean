import CulpritFinding.Build
import CulpritFinding.ChangeLog
import CulpritFinding.Error

namespace CulpritFinding

abbrev BuildHistory := (project builder : String) → (number : Int) →
  Except ProviderError (Option Build)

/-- Answers with the commits after one revision, or from as far back as is known, up to and
including another. -/
abbrev ChangeLogSource := (after : Option String) → (upTo : String) →
  Except ProviderError ChangeLogs

abbrev DependencySource := Build → ChangeLogs → Except ProviderError DependencyRolls

/-- A walk over earlier builds, newest first: the number that is looked up next, and how many
numbers may still be looked up. -/
structure PreviousBuilds where
  nextNumber : Int
  remaining : Nat
  deriving DecidableEq

namespace PreviousBuilds

/-- A walk over the builds before a number, over at most `count` numbers. There is none before the
least number of 64 bits. -/
def before? (number : Int) (count : Nat) : Option PreviousBuilds := do
  return ⟨← int64? (number - 1), count⟩

/-- Looks up numbers until one has a build or cannot be answered, and gives the walk that goes on
below it. The walk is over when it answers that there is no build. -/
def next {m : Type → Type} [Monad m]
    (lookUp : Int → m (Except ProviderError (Option Build))) :
    (number : Int) → (remaining : Nat) →
      m (Except ProviderError (Option Build) × PreviousBuilds)
  | number, 0 => Pure.pure (.ok none, ⟨number, 0⟩)
  | number, remaining + 1 =>
    if number < 0 then Pure.pure (.ok none, ⟨number, remaining + 1⟩)
    else do
      match ← lookUp number with
      | .error e => Pure.pure (.error e, ⟨number - 1, remaining⟩)
      | .ok (some build) => Pure.pure (.ok (some build), ⟨number - 1, remaining⟩)
      | .ok none => next lookUp (number - 1) remaining

def step {m : Type → Type} [Monad m] (walk : PreviousBuilds)
    (lookUp : Int → m (Except ProviderError (Option Build))) :
    m (Except ProviderError (Option Build) × PreviousBuilds) :=
  next lookUp walk.nextNumber walk.remaining

theorem remaining_next_lt (lookUp : Int → Id (Except ProviderError (Option Build)))
    (number : Int) (remaining : Nat) (h : (next lookUp number remaining).1 ≠ .ok none) :
    (next lookUp number remaining).2.remaining < remaining := by
  induction remaining generalizing number with
  | zero => simp [next, Pure.pure] at h
  | succ remaining ih =>
    unfold next at h ⊢
    split
    · simp_all [Pure.pure]
    · rename_i known
      simp only [known, if_false] at h
      simp only [bind, Pure.pure] at h ⊢
      split <;> simp_all
      have := ih _ h
      omega

theorem remaining_step_lt (walk : PreviousBuilds)
    (lookUp : Int → Id (Except ProviderError (Option Build)))
    (h : (walk.step lookUp).1 ≠ .ok none) : (walk.step lookUp).2.remaining < walk.remaining :=
  remaining_next_lt lookUp _ _ h

end PreviousBuilds

/-- A history on record. Of two records of one build the later one counts. -/
def recordedHistory (builds : List Build) : BuildHistory := fun project builder number =>
  .ok (builds.reverse.find? fun b => b.key = ⟨project, builder, number⟩)

def positionOf? (commits : List ChangeLog) (revision : String) : Option Nat :=
  commits.findIdx? fun c => c.revision = revision

/-- Commits on record, oldest first. Where the last revision is not on record there are no commits;
where the first one is not, the commits start with the oldest. -/
def recordedChangeLogs (commits : List ChangeLog) : ChangeLogSource := fun after upTo =>
  match positionOf? commits upTo with
  | none => .ok .empty
  | some stop =>
    let start := ((after.bind (positionOf? commits)).map (· + 1)).getD 0
    .ok (.ofList (((commits.take (stop + 1)).drop start).map fun c => (c.revision, c)))

def recordedDependencies (rolls : DependencyRolls) : DependencySource := fun _ commits =>
  .ok (rolls.filter fun revision _ => commits.contains revision)

def noDependencies : DependencySource := fun _ _ => .ok .empty

end CulpritFinding
