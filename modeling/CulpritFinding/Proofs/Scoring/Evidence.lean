import CulpritFinding.Proofs.Scoring.Reasons

namespace CulpritFinding

/-- Evidence has all files of this one, with all lines that are cited for them. -/
def FailureSignal.GrowsTo (signal signal' : FailureSignal) : Prop :=
  ∀ file lines, signal.files.get? file = some lines →
    ∃ lines', signal'.files.get? file = some lines' ∧ lines ⊆ lines'

namespace FailureSignal

theorem growsTo_iff {signal signal' : FailureSignal} : signal.GrowsTo signal' ↔
    ∀ e ∈ signal.files.toList, ∃ e' ∈ signal'.files.toList, e'.1 = e.1 ∧ e.2 ⊆ e'.2 := by
  unfold GrowsTo
  simp only [SortedMap.get?_eq_some, Prod.forall, Prod.exists]
  apply forall₃_congr
  intro file lines _
  constructor
  · rintro ⟨lines', listed, cited⟩
    exact ⟨file, lines', listed, rfl, cited⟩
  · rintro ⟨file', lines', listed, rfl, cited⟩
    exact ⟨lines', listed, cited⟩

instance (signal signal' : FailureSignal) : Decidable (signal.GrowsTo signal') :=
  decidable_of_iff _ growsTo_iff.symm

end FailureSignal

inductive Reason.Grows : Reason → Reason → Prop
  | kept (r : Reason) : Grows r r
  | cited {path : String} {lines lines' : List Nat} (more : lines ⊆ lines') :
      Grows (.modified path lines) (.modified path lines')
  | found {path file : String} {r : Reason} (about : r.path? = some path) :
      Grows (.related path file) r

namespace FileOverlap

theorem mentionedReason_path? (change : FileChange) (path : String) (lines : List Nat) :
    (mentionedReason change path lines).path? = some path := by
  unfold mentionedReason
  cases change.changeType <;> rfl

theorem mentionedReason_ne_related (change : FileChange) (path : String) (lines : List Nat)
    (path' file : String) : mentionedReason change path lines ≠ .related path' file := by
  unfold mentionedReason
  cases change.changeType <;> simp

theorem mentionedReason_grows (change : FileChange) (path : String) {lines lines' : List Nat}
    (more : lines ⊆ lines') :
    (mentionedReason change path lines).Grows (mentionedReason change path lines') := by
  unfold mentionedReason
  cases change.changeType with
  | modify => exact .cited more
  | add | delete | rename | copy => exact .kept _

theorem mentionedReason_eq_modified {change : FileChange} {path path' : String}
    {lines lines' : List Nat}
    (same : mentionedReason change path lines = .modified path' lines') :
    change.changeType = .modify ∧ path = path' ∧ lines = lines' := by
  unfold mentionedReason at same
  cases kind : change.changeType <;> simp [kind] at same
  exact ⟨rfl, same⟩

theorem concerns_of_not_rename {change : FileChange} (kind : change.changeType ≠ .rename)
    (path file : String) : concerns change path file =
      Path.correspond path.toList file.toList := by
  simp [concerns, kind]

theorem concerns_of_rename {change : FileChange} (kind : change.changeType = .rename)
    (path file : String) : concerns change path file =
      (Path.correspond path.toList file.toList ||
        Path.correspond (change.oldPath.getD path).toList file.toList) := by
  unfold concerns
  cases change.oldPath <;> simp [kind]

theorem mentionedReason_inj {change change' : FileChange} {path path' : String}
    {lines lines' : List Nat}
    (same : mentionedReason change path lines = mentionedReason change' path' lines') :
    path = path' ∧ concerns change path = concerns change' path' ∧
      mentionedReason change path = mentionedReason change' path' := by
  have samePath : path = path' := by
    have about := congrArg Reason.path? same
    rw [mentionedReason_path?, mentionedReason_path?] at about
    exact Option.some.inj about
  subst samePath
  refine ⟨rfl, ?_, ?_⟩
  · funext file
    by_cases renamed : change.changeType = .rename
    · have renamed' : change'.changeType = .rename := by
        cases kind' : change'.changeType <;> simp [mentionedReason, renamed, kind'] at same
        rfl
      have old : change.oldPath.getD path = change'.oldPath.getD path := by
        simpa [mentionedReason, renamed, renamed'] using same
      rw [concerns_of_rename renamed, concerns_of_rename renamed', old]
    · have renamed' : change'.changeType ≠ .rename := by
        intro kind'
        cases kind : change.changeType <;> simp [mentionedReason, kind, kind'] at same
        exact renamed kind
      rw [concerns_of_not_rename renamed, concerns_of_not_rename renamed']
  · funext lines
    unfold mentionedReason at same ⊢
    cases kind : change.changeType <;> cases kind' : change'.changeType <;>
      simp_all

theorem mentionedLines?_congr (signal : FailureSignal) {change change' : FileChange} {path : String}
    (same : concerns change path = concerns change' path) :
    mentionedLines? signal change path = mentionedLines? signal change' path := by
  unfold mentionedLines?
  rw [same]

theorem modified_unique {signal : FailureSignal} {change change' : FileChange} {path : String}
    {lines lines' : List Nat} (given : fileReason? signal change = some (.modified path lines))
    (given' : fileReason? signal change' = some (.modified path lines')) : lines = lines' := by
  obtain ⟨p, -, ⟨found, cited, same⟩ | ⟨-, file, -, same⟩⟩ := fileReason?_eq_some.mp given
  · obtain ⟨p', -, ⟨found', cited', same'⟩ | ⟨-, file, -, same'⟩⟩ := fileReason?_eq_some.mp given'
    · obtain ⟨kind, rfl, rfl⟩ := mentionedReason_eq_modified same
      obtain ⟨kind', rfl, rfl⟩ := mentionedReason_eq_modified same'
      have alike : concerns change p' = concerns change' p' := by
        funext file
        rw [concerns_of_not_rename (by simp [kind]), concerns_of_not_rename (by simp [kind'])]
      rw [mentionedLines?_congr signal alike, cited'] at cited
      exact (Option.some.inj cited).symm
    · cases same'
  · cases same

section

variable {signal signal' : FailureSignal} (grows : signal.GrowsTo signal')

include grows

theorem mentionedLines?_grows {change : FileChange} {path : String} {lines : List Nat}
    (found : mentionedLines? signal change path = some lines) :
    ∃ lines', mentionedLines? signal' change path = some lines' ∧ lines ⊆ lines' := by
  cases found' : mentionedLines? signal' change path with
  | none =>
    have apart := mentionedLines?_eq_none.mp found'
    have unmentioned : mentionedLines? signal change path = none := by
      rw [mentionedLines?_eq_none]
      intro e member
      obtain ⟨e', listed, same, -⟩ := FailureSignal.growsTo_iff.mp grows e member
      rw [← same]
      exact apart e' listed
    rw [unmentioned] at found
    cases found
  | some lines' =>
    refine ⟨lines', rfl, ?_⟩
    intro line cited
    obtain ⟨e, member, concerned, given⟩ := (mem_mentionedLines? found).mp cited
    obtain ⟨e', listed, same, within⟩ := FailureSignal.growsTo_iff.mp grows e member
    rw [← same] at concerned
    exact (mem_mentionedLines? found').mpr ⟨e', listed, concerned, within given⟩

theorem mentionedLines?_unmentioned {change : FileChange} {path : String}
    (unmentioned : mentionedLines? signal' change path = none) :
    mentionedLines? signal change path = none := by
  cases found : mentionedLines? signal change path with
  | none => rfl
  | some lines =>
    obtain ⟨lines', found', -⟩ := mentionedLines?_grows grows found
    cases unmentioned.symm.trans found'

theorem keys_grow {file : String} (known : file ∈ signal.files.keys) :
    file ∈ signal'.files.keys := by
  obtain ⟨e, member, rfl⟩ := List.mem_map.mp known
  obtain ⟨e', listed, same, -⟩ := FailureSignal.growsTo_iff.mp grows e member
  exact List.mem_map.mpr ⟨e', listed, same⟩

theorem fileReason?_grows {change : FileChange} {r : Reason}
    (given : fileReason? signal change = some r) :
    ∃ r', fileReason? signal' change = some r' ∧ r.Grows r' := by
  obtain ⟨path, named, ⟨lines, found, rfl⟩ | ⟨-, file, found, rfl⟩⟩ := fileReason?_eq_some.mp given
  · obtain ⟨lines', found', more⟩ := mentionedLines?_grows grows found
    exact ⟨_, fileReason?_eq_some.mpr ⟨path, named, .inl ⟨lines', found', rfl⟩⟩,
      mentionedReason_grows change path more⟩
  · cases found' : mentionedLines? signal' change path with
    | some lines' =>
      exact ⟨_, fileReason?_eq_some.mpr ⟨path, named, .inl ⟨lines', found', rfl⟩⟩,
        .found (mentionedReason_path? ..)⟩
    | none =>
      have known := keys_grow grows (List.mem_of_find?_eq_some found)
      have kin := List.find?_some found
      have some : (signal'.files.keys.find? fun file =>
          Path.isRelated path.toList file.toList).isSome = true :=
        List.find?_isSome.mpr ⟨file, known, kin⟩
      obtain ⟨file', found''⟩ := Option.isSome_iff_exists.mp some
      exact ⟨_, fileReason?_eq_some.mpr ⟨path, named, .inr ⟨found', file', found'', rfl⟩⟩,
        .found rfl⟩

theorem rollReason?_grows {roll : DependencyRoll} {r : Reason}
    (given : rollReason? signal roll = some r) : rollReason? signal' roll = some r := by
  unfold rollReason? at given ⊢
  split at given
  · rename_i mentioned
    obtain ⟨file, known, within⟩ := List.any_eq_true.mp mentioned
    have mentioned' : mentionsDependency signal' roll = true :=
      List.any_eq_true.mpr ⟨file, keys_grow grows known, within⟩
    rw [if_pos mentioned']
    exact given
  · cases given

theorem fileReason?_congr {change change' : FileChange} {r : Reason}
    (given : fileReason? signal' change = some r) (given' : fileReason? signal' change' = some r) :
    fileReason? signal change = fileReason? signal change' := by
  obtain ⟨path, named, reason⟩ := fileReason?_eq_some.mp given
  obtain ⟨path', named', reason'⟩ := fileReason?_eq_some.mp given'
  rw [fileReason?_named named, fileReason?_named named']
  rcases reason with ⟨lines, -, rfl⟩ | ⟨unmentioned, file, -, rfl⟩
  · rcases reason' with ⟨lines', -, same⟩ | ⟨-, file, -, same⟩
    · obtain ⟨rfl, concerned, reason⟩ := mentionedReason_inj same
      rw [mentionedLines?_congr signal concerned, reason]
    · exact absurd same.symm (mentionedReason_ne_related _ _ _ _ _)
  · rcases reason' with ⟨lines', -, same⟩ | ⟨unmentioned', file', -, same⟩
    · exact absurd same (mentionedReason_ne_related _ _ _ _ _)
    · cases same
      rw [mentionedLines?_unmentioned grows unmentioned,
        mentionedLines?_unmentioned grows unmentioned']

end

/-- What becomes of a reason when the evidence grows. -/
inductive Becomes (signal signal' : FailureSignal) (commit : ChangeLog)
    (rolls : List DependencyRoll) (r r' : Reason) : Prop
  | file {change : FileChange} (touched : change ∈ commit.touchedFiles)
      (before : fileReason? signal change = some r) (after : fileReason? signal' change = some r')
  | roll {roll : DependencyRoll} (rolled : roll ∈ rolls)
      (before : rollReason? signal roll = some r) (after : rollReason? signal' roll = some r')

section

variable {signal signal' : FailureSignal} {commit : ChangeLog} {rolls : List DependencyRoll}
  {r r' s : Reason}

theorem mem_reasons : r ∈ reasons signal commit rolls ↔
    (∃ change ∈ commit.touchedFiles, fileReason? signal change = some r) ∨
      ∃ roll ∈ rolls, rollReason? signal roll = some r := by
  simp [reasons]

theorem rollReason?_eq_some {roll : DependencyRoll} (given : rollReason? signal roll = some r) :
    r = .rolled roll.depPath (roll.oldRevision.getD "none") roll.newRevision := by
  unfold rollReason? at given
  split at given
  · exact (Option.some.inj given).symm
  · cases given

theorem fileReason?_path? {change : FileChange} (given : fileReason? signal change = some r) :
    ∃ path, r.path? = some path := by
  obtain ⟨path, -, ⟨lines, -, rfl⟩ | ⟨-, file, -, rfl⟩⟩ := fileReason?_eq_some.mp given
  · exact ⟨path, mentionedReason_path? ..⟩
  · exact ⟨path, rfl⟩

theorem lines_unique {path : String} {lines lines' : List Nat}
    (member : .modified path lines ∈ reasons signal commit rolls)
    (member' : .modified path lines' ∈ reasons signal commit rolls) : lines = lines' := by
  rcases mem_reasons.mp member with ⟨change, -, given⟩ | ⟨roll, -, given⟩
  · rcases mem_reasons.mp member' with ⟨change', -, given'⟩ | ⟨roll', -, given'⟩
    · exact modified_unique given given'
    · cases rollReason?_eq_some given'
  · cases rollReason?_eq_some given

namespace Becomes

theorem mem_after (becomes : Becomes signal signal' commit rolls r r') :
    r' ∈ reasons signal' commit rolls := by
  rw [mem_reasons]
  cases becomes with
  | file touched _ after => exact .inl ⟨_, touched, after⟩
  | roll rolled _ after => exact .inr ⟨_, rolled, after⟩

variable (grows : signal.GrowsTo signal')

include grows

theorem exists_of_mem (member : r ∈ reasons signal commit rolls) :
    ∃ r', Becomes signal signal' commit rolls r r' := by
  rcases mem_reasons.mp member with ⟨change, touched, before⟩ | ⟨roll, rolled, before⟩
  · obtain ⟨r', after, -⟩ := fileReason?_grows grows before
    exact ⟨r', .file touched before after⟩
  · exact ⟨r, .roll rolled before (rollReason?_grows grows before)⟩

theorem grown (becomes : Becomes signal signal' commit rolls r r') : r.Grows r' := by
  cases becomes with
  | file touched before after =>
    obtain ⟨r'', after', grown⟩ := fileReason?_grows grows before
    cases after.symm.trans after'
    exact grown
  | roll rolled before after =>
    cases after.symm.trans (rollReason?_grows grows before)
    exact .kept _

theorem unique (becomes : Becomes signal signal' commit rolls r r')
    (becomes' : Becomes signal signal' commit rolls s r') : r = s := by
  cases becomes with
  | file touched before after =>
    cases becomes' with
    | file touched' before' after' =>
      rw [fileReason?_congr grows after after', before'] at before
      exact (Option.some.inj before).symm
    | roll rolled' before' after' =>
      obtain ⟨path, about⟩ := fileReason?_path? after
      rw [rollReason?_eq_some after'] at about
      cases about
  | roll rolled before after =>
    cases becomes' with
    | file touched' before' after' =>
      obtain ⟨path, about⟩ := fileReason?_path? after'
      rw [rollReason?_eq_some after] at about
      cases about
    | roll rolled' before' after' =>
      cases after.symm.trans (rollReason?_grows grows before)
      cases after'.symm.trans (rollReason?_grows grows before')
      rfl

end Becomes

end

end FileOverlap

end CulpritFinding
