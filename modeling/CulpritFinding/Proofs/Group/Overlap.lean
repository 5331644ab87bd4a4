import CulpritFinding.Proofs.Group.Regrouping

namespace CulpritFinding

namespace RegressionWindow

variable {w w' : RegressionWindow} {low high low' high' : Int}

/-- The commit at some position lies in both windows. -/
def Meets (w w' : RegressionWindow) : Prop :=
  ∃ low high low' high', w.Spans low high ∧ w'.Spans low' high' ∧
    ∃ position, (low < position ∧ position ≤ high) ∧ low' < position ∧ position ≤ high'

/-- A window that holds no commit lies between the bounds of another one. -/
def HollowIn (w w' : RegressionWindow) : Prop :=
  ∃ low high low' high', w.Spans low high ∧ w'.Spans low' high' ∧
    low' < high ∧ high ≤ low ∧ low < high'

theorem meets_of_spans (spans : w.Spans low high) (spans' : w'.Spans low' high') :
    w.Meets w' ↔ (low < high ∧ low' < high') ∧ low < high' ∧ low' < high := by
  constructor
  · rintro ⟨_, _, _, _, other, other', position, inside, inside'⟩
    obtain ⟨rfl, rfl⟩ := spans.unique other
    obtain ⟨rfl, rfl⟩ := spans'.unique other'
    omega
  · intro meets
    -- The lowest position that is above both lower bounds.
    have inside : (low < max low low' + 1 ∧ max low low' + 1 ≤ high) ∧
        low' < max low low' + 1 ∧ max low low' + 1 ≤ high' := by omega
    exact ⟨low, high, low', high', spans, spans', _, inside⟩

theorem hollowIn_of_spans (spans : w.Spans low high) (spans' : w'.Spans low' high') :
    w.HollowIn w' ↔ low' < high ∧ high ≤ low ∧ low < high' := by
  constructor
  · rintro ⟨_, _, _, _, other, other', hollow⟩
    obtain ⟨rfl, rfl⟩ := spans.unique other
    obtain ⟨rfl, rfl⟩ := spans'.unique other'
    exact hollow
  · exact fun hollow => ⟨_, _, _, _, spans, spans', hollow⟩

end RegressionWindow

/-- There is no answer just where one of the windows is unbounded. Where the positions of both
windows are known, a group and a window overlap just if some commit lies in both, unless one of them
holds no commit and lies between the bounds of the other: then they overlap without a commit in
common. Where they are not known, the commits that failed first decide. Which of the two windows is
that of the group makes no difference. -/
theorem FailureGroup.overlaps_iff_meets (g : FailureGroup) (w : RegressionWindow) :
    (g.window.overlaps? w = none ↔ ¬ (g.window.isBounded = true ∧ w.isBounded = true)) ∧
    (∀ answer ∈ g.window.overlaps? w,
      (g.window.Located ∧ w.Located →
        ((answer = true ↔ g.window.Meets w) ↔ ¬ (g.window.HollowIn w ∨ w.HollowIn g.window)) ∧
        (g.window.HollowIn w ∨ w.HollowIn g.window → answer = true)) ∧
      (¬ (g.window.Located ∧ w.Located) →
        (answer = true ↔ g.firstFailed.revision = w.firstFailed.revision))) ∧
    g.window.overlaps? w = w.overlaps? g.window := by
  refine ⟨?_, ?_, RegressionWindow.overlaps?_comm ..⟩
  · unfold RegressionWindow.overlaps?
    rw [← Bool.and_eq_true]
    split <;> simp_all
  · intro answer answered
    obtain rfl := RegressionWindow.overlaps?_eq_some answered
    refine ⟨?_, RegressionWindow.overlaps_of_unlocated⟩
    rintro ⟨⟨low, high, spans⟩, low', high', spans'⟩
    rw [RegressionWindow.overlaps_of_spans spans spans',
      RegressionWindow.meets_of_spans spans spans',
      RegressionWindow.hollowIn_of_spans spans spans',
      RegressionWindow.hollowIn_of_spans spans' spans]
    omega

namespace Rebuilt

theorem overlaps_without_commit :
    let g := request.founds
    let wide := Shared.window 115 125
    let unplaced : RegressionWindow := ⟨none, ⟨"r120", none⟩⟩
    g.window.HollowIn wide ∧ g.window.overlaps? wide = some true ∧ ¬ g.window.Meets wide ∧
      ¬ unplaced.Located ∧ g.window.overlaps? unplaced = some true ∧
      g.window.overlaps? first.window = none := by
  intro g wide unplaced
  have spans : g.window.Spans 120 120 := ⟨rfl, rfl⟩
  have spans' : wide.Spans 115 125 := ⟨rfl, rfl⟩
  have hollow : g.window.HollowIn wide := ⟨_, _, _, _, spans, spans', by decide⟩
  have unknown : ¬ unplaced.Located := fun ⟨_, _, spans⟩ => nomatch spans.failed
  have overlaps : g.window.overlaps? wide = some true := by decide
  have unplacedOverlaps : g.window.overlaps? unplaced = some true := by decide
  have apart : ¬ g.window.Meets wide := by
    obtain ⟨agree, -⟩ := ((g.overlaps_iff_meets wide).2.1 true overlaps).1
      ⟨⟨_, _, spans⟩, _, _, spans'⟩
    exact fun meets => agree.mp (iff_of_true rfl meets) (.inl hollow)
  exact ⟨hollow, overlaps, apart, unknown, unplacedOverlaps,
    (g.overlaps_iff_meets first.window).1.mpr (by decide)⟩

end Rebuilt

end CulpritFinding
