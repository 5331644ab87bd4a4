import CulpritFinding.Proofs.Scoring.Evidence
import CulpritFinding.Proofs.Scoring.Totals

namespace CulpritFinding

/-- A reason that is about the same file weighs at least as much as that it is related to one. -/
structure HintWeights.RelatedLeast (w : HintWeights) : Prop where
  added : w.relatedFile ≤ w.addedFile
  deleted : w.relatedFile ≤ w.deletedFile
  renamed : w.relatedFile ≤ w.renamedFile
  modified : w.relatedFile ≤ w.modifiedFile

theorem Reason.Grows.weight_le {w : HintWeights} (least : w.RelatedLeast) {r r' : Reason}
    (grows : r.Grows r') : r.weight w ≤ r'.weight w := by
  have added : w.modifiedFile ≤ w.modifiedFile + w.modifiedFileWithLines := Nat.le_add_right _ _
  cases grows with
  | kept => exact Nat.le_refl _
  | @cited path lines lines' more =>
    cases lines' with
    | nil => rw [List.subset_nil.mp more]
    | cons line rest =>
      cases lines with
      | nil => exact added
      | cons => exact Nat.le_refl _
  | found about =>
    cases r' with
    | added => exact least.added
    | deleted => exact least.deleted
    | renamed => exact least.renamed
    | modified path lines =>
      cases lines with
      | nil => exact least.modified
      | cons => exact Nat.le_trans least.modified added
    | related => exact Nat.le_refl _
    | rolled => cases about

namespace FileOverlap

section

variable {w : HintWeights} {signal signal' : FailureSignal} {commit : ChangeLog}
  {rolls : List DependencyRoll}

theorem score_grows (grows : signal.GrowsTo signal') (least : w.RelatedLeast)
    (apart : ∀ {r r' s s' : Reason}, Becomes signal signal' commit rolls r r' →
      Becomes signal signal' commit rolls s s' → r.weight w ≠ 0 → s.weight w ≠ 0 →
        r'.text = s'.text → r.text = s.text)
    (alike : ∀ r ∈ reasons signal' commit rolls, ∀ s ∈ reasons signal' commit rolls,
      r.weight w ≠ 0 → s.weight w ≠ 0 → r.text = s.text → r.weight w = s.weight w) :
    (Hints.ofReasons w (reasons signal commit rolls)).score ≤
      (Hints.ofReasons w (reasons signal' commit rolls)).score := by
  have counted : ∀ text, (∃ weight,
      (Hints.ofReasons w (reasons signal commit rolls)).get? text = some weight) →
        ∃ r r', Becomes signal signal' commit rolls r r' ∧ r.text = text ∧ r.weight w ≠ 0 ∧
          (Hints.ofReasons w (reasons signal commit rolls)).get? text = some (r.weight w) := by
    rintro text ⟨weight, known⟩
    obtain ⟨r, member, named, rfl, weighs⟩ := Hints.exists_of_get? known
    obtain ⟨r', becomes⟩ := Becomes.exists_of_mem grows member
    exact ⟨r, r', becomes, named, weighs, known⟩
  choose! r r' becomes named weighs counts using counted
  apply Hints.score_le fun text => (r' text).text
  · intro text weight known
    have given : ∃ weight, _ = some weight := ⟨weight, known⟩
    have gained := ((becomes text given).grown grows).weight_le least
    have weighs' : (r' text).weight w ≠ 0 := by
      have := weighs text given
      omega
    obtain ⟨weight', known'⟩ := Hints.exists_get?_text (becomes text given).mem_after weighs'
    obtain ⟨s, member, same, rfl, positive⟩ := Hints.exists_of_get? known'
    refine ⟨s.weight w, known', ?_⟩
    cases known.symm.trans (counts text given)
    rw [alike s member _ (becomes text given).mem_after positive weighs' same]
    exact gained
  · intro text weight text' weight' known known' same
    have given : ∃ weight, _ = some weight := ⟨weight, known⟩
    have given' : ∃ weight, _ = some weight := ⟨weight', known'⟩
    rw [← named text given, ← named text' given']
    exact apart (becomes text given) (becomes text' given') (weighs text given)
      (weighs text' given') same

/-- No two different reasons have one text. -/
def WordedApart (signal : FailureSignal) (commit : ChangeLog) (rolls : List DependencyRoll) :
    Prop :=
  ∀ r ∈ reasons signal commit rolls, ∀ s ∈ reasons signal commit rolls, r.text = s.text → r = s

theorem score_grows_of_wordedApart (grows : signal.GrowsTo signal') (least : w.RelatedLeast)
    (apart : WordedApart signal' commit rolls) :
    (Hints.ofReasons w (reasons signal commit rolls)).score ≤
      (Hints.ofReasons w (reasons signal' commit rolls)).score := by
  apply score_grows grows least
  · intro r r' s s' becomes becomes' _ _ same
    have one := apart r' becomes.mem_after s' becomes'.mem_after same
    rw [one] at becomes
    rw [becomes.unique grows becomes']
  · intro r member s member' _ _ same
    rw [apart r member s member' same]

end

end FileOverlap

section

variable {w : HintWeights} (unrelated : w.relatedFile = 0) (unmodified : w.modifiedFile = 0)

namespace Reason

variable {r r' s : Reason}

def markWeight (w : HintWeights) : List Char → Nat
  | ['a', 'd'] => w.addedFile
  | ['d', 'e'] => w.deletedFile
  | ['r', 'e'] => w.renamedFile
  | ['m', 'o'] => w.modifiedFileWithLines
  | _ => w.dependencyRoll

include unrelated in
theorem Grows.eq_of_unmarked (grows : r.Grows r') (weighs : r.weight w ≠ 0)
    (unmarked : r'.mark ≠ ['m', 'o']) : r = r' := by
  cases grows with
  | kept => rfl
  | cited more => exact absurd rfl unmarked
  | found about => exact absurd unrelated weighs

include unrelated unmodified

theorem cites_of_mark (mark : r.mark = ['m', 'o']) (weighs : r.weight w ≠ 0) :
    ∃ path line lines, r = .modified path (line :: lines) := by
  cases r with
  | modified path lines =>
    cases lines with
    | nil => exact absurd unmodified weighs
    | cons line lines => exact ⟨path, line, lines, rfl⟩
  | related => exact absurd unrelated weighs
  | added | deleted | renamed | rolled => simp [Reason.mark] at mark

theorem weight_eq_markWeight (weighs : r.weight w ≠ 0) : r.weight w = markWeight w r.mark := by
  cases r with
  | modified path lines =>
    cases lines with
    | nil => exact absurd unmodified weighs
    | cons line lines => simp [weight, markWeight, mark, unmodified]
  | related => exact absurd unrelated weighs
  | added | deleted | renamed | rolled => rfl

end Reason

namespace FileOverlap

variable {signal signal' : FailureSignal} {commit : ChangeLog} {rolls : List DependencyRoll}

include unrelated unmodified

theorem relatedLeast_of_weightless : w.RelatedLeast := by
  constructor <;> omega

theorem score_grows_of_weightless (grows : signal.GrowsTo signal') :
    (Hints.ofReasons w (reasons signal commit rolls)).score ≤
      (Hints.ofReasons w (reasons signal' commit rolls)).score := by
  have least := relatedLeast_of_weightless unrelated unmodified
  apply score_grows grows least
  · intro r r' s s' becomes becomes' weighs weighs' same
    have marks := Reason.mark_eq same
    have grown := becomes.grown grows
    have grown' := becomes'.grown grows
    by_cases marked : r'.mark = ['m', 'o']
    · -- Both cite lines of one file, so that they cite the same lines.
      have more : r'.weight w ≠ 0 := by
        have := grown.weight_le least
        omega
      have more' : s'.weight w ≠ 0 := by
        have := grown'.weight_le least
        omega
      obtain ⟨path, line, lines, rfl⟩ :=
        Reason.cites_of_mark unrelated unmodified marked more
      obtain ⟨path', line', lines', rfl⟩ :=
        Reason.cites_of_mark unrelated unmodified (marks ▸ marked) more'
      cases Reason.path_eq_of_text same
      rw [lines_unique becomes.mem_after becomes'.mem_after] at becomes
      rw [becomes.unique grows becomes']
    · rw [grown.eq_of_unmarked unrelated weighs marked,
        grown'.eq_of_unmarked unrelated weighs' (marks ▸ marked), same]
  · intro r _ s _ weighs weighs' same
    rw [Reason.weight_eq_markWeight unrelated unmodified weighs,
      Reason.weight_eq_markWeight unrelated unmodified weighs', Reason.mark_eq same]

end FileOverlap

end

namespace Overtaken

def change (kind : ChangeType) : FileChange := ⟨kind, some "base/foo.cc", some "base/foo.cc"⟩

def commit (kind : ChangeType) : ChangeLog := ⟨"r1", none, "", [change kind], "chromium"⟩

def header : FailureSignal := { FailureSignal.empty with files := .ofList [("base/foo.h", [])] }

def both : FailureSignal :=
  { FailureSignal.empty with files := .ofList [("base/foo.cc", []), ("base/foo.h", [])] }

open FileOverlap

theorem reasons_header (kind : ChangeType) :
    reasons header (commit kind) [] = [.related "base/foo.cc" "base/foo.h"] := by
  cases kind <;> decide +kernel

theorem reasons_both (kind : ChangeType) :
    reasons both (commit kind) [] = [mentionedReason (change kind) "base/foo.cc" []] := by
  cases kind <;> decide +kernel

theorem related_le {w : HintWeights} {kind : ChangeType}
    (kept : (Hints.ofReasons w (reasons header (commit kind) [])).score ≤
      (Hints.ofReasons w (reasons both (commit kind) [])).score) :
    w.relatedFile ≤ (mentionedReason (change kind) "base/foo.cc" []).weight w := by
  rw [reasons_header, reasons_both, Hints.score_single, Hints.score_single] at kept
  exact kept

theorem wordedApart_both (kind : ChangeType) : WordedApart both (commit kind) [] := by
  intro r member s member' _
  rw [reasons_both, List.mem_singleton] at member member'
  rw [member, member']

end Overtaken

namespace Doubled

/-- The path of the first file reads like a line that is cited for the second one. -/
def commit : ChangeLog :=
  ⟨"r1", none, "", [⟨.modify, none, some "f[1]"⟩, ⟨.modify, none, some "f"⟩], "chromium"⟩

def unlined : FailureSignal :=
  { FailureSignal.empty with files := .ofList [("f", []), ("f[1]", [])] }

def lined : FailureSignal :=
  { FailureSignal.empty with files := .ofList [("f", [1]), ("f[1]", [])] }

open FileOverlap

theorem reasons_unlined : reasons unlined commit [] = [.modified "f[1]" [], .modified "f" []] := by
  decide +kernel

theorem reasons_lined : reasons lined commit [] = [.modified "f[1]" [], .modified "f" [1]] := by
  decide +kernel

theorem modified_eq_zero {w : HintWeights}
    (kept : (Hints.ofReasons w (reasons unlined commit [])).score ≤
      (Hints.ofReasons w (reasons lined commit [])).score) : w.modifiedFile = 0 := by
  have other : (Reason.modified "f[1]" []).text ≠ (Reason.modified "f" []).text := by decide
  have same : (Reason.modified "f[1]" []).text = (Reason.modified "f" [1]).text := by decide
  by_contra weighs
  rw [reasons_unlined, reasons_lined, Hints.score_pair, Hints.score_pair,
    if_neg fun both => other both.1, if_pos ⟨same, weighs⟩] at kept
  have twice : w.modifiedFile + w.modifiedFile ≤ w.modifiedFile + 0 := kept
  omega

end Doubled

namespace FileOverlap

/-- Growing evidence keeps the scores of all commits whose reasons are worded apart just if a
related file weighs no more than the file itself, and those of all commits just if neither a
related file nor a modified one weighs anything by itself. -/
theorem score_grows_iff (s : FileOverlap) :
    ((∀ commit rolls signal signal', signal.GrowsTo signal' → WordedApart signal' commit rolls →
        (s.hints signal commit rolls).score ≤ (s.hints signal' commit rolls).score) ↔
      s.weights.RelatedLeast) ∧
    ((∀ commit rolls signal signal', signal.GrowsTo signal' →
        (s.hints signal commit rolls).score ≤ (s.hints signal' commit rolls).score) ↔
      s.weights.relatedFile = 0 ∧ s.weights.modifiedFile = 0) := by
  simp only [hints_eq]
  constructor
  · constructor
    · intro kept
      have kept (kind : ChangeType) := Overtaken.related_le
        (kept (Overtaken.commit kind) [] _ _ (by decide) (Overtaken.wordedApart_both kind))
      exact ⟨kept .add, kept .delete, kept .rename, kept .modify⟩
    · intro least commit rolls signal signal' grows apart
      exact score_grows_of_wordedApart grows least apart
  · constructor
    · intro kept
      have related := Overtaken.related_le (kept (Overtaken.commit .modify) [] _ _ (by decide))
      have modified := Doubled.modified_eq_zero (kept Doubled.commit [] _ _ (by decide))
      exact ⟨Nat.le_zero.mp (Nat.le_trans related (Nat.le_of_eq modified)), modified⟩
    · rintro ⟨unrelated, unmodified⟩ commit rolls signal signal' grows
      exact score_grows_of_weightless unrelated unmodified grows

example : let s : FileOverlap := ⟨{ HintWeights.standard with relatedFile := 5 }⟩
    (s.hints Overtaken.header (Overtaken.commit .modify) []).score = 5 ∧
      (s.hints Overtaken.both (Overtaken.commit .modify) []).score = 2 := by
  decide +kernel

end FileOverlap

end CulpritFinding
