import CulpritFinding.Flake.Name
import CulpritFinding.Proofs.Text.Removal

namespace CulpritFinding

theorem exists_trimStart (cs : List Char) :
    ∃ lead, cs = lead ++ trimStart cs ∧ ∀ c ∈ lead, isBlank c = true :=
  ⟨cs.takeWhile isBlank, List.takeWhile_append_dropWhile.symm, fun _ => List.mem_takeWhile_imp⟩

theorem trim_eq (cs : List Char) : trim cs = (trimStart cs).rdropWhile isBlank := rfl

theorem exists_trim (cs : List Char) :
    ∃ lead trail, cs = lead ++ trim cs ++ trail ∧ (∀ c ∈ lead, isBlank c = true) ∧
      ∀ c ∈ trail, isBlank c = true := by
  obtain ⟨lead, whole, blank⟩ := exists_trimStart cs
  refine ⟨lead, (trimStart cs).rtakeWhile isBlank, ?_, blank, fun c => List.mem_rtakeWhile_imp⟩
  rw [List.append_assoc, trim_eq, List.rdropWhile_append_rtakeWhile, ← whole]

theorem trimStart_append_cons {c : Char} (clear : isBlank c = false) (front back : List Char) :
    trimStart (front ++ c :: back) = trimStart front ++ c :: back := by
  unfold trimStart
  induction front with
  | nil => simp [clear]
  | cons d front ih =>
    rw [List.cons_append, List.dropWhile_cons, List.dropWhile_cons]
    split
    · exact ih
    · rfl

theorem trim_trim (cs : List Char) : trim (trim cs) = trim cs := by
  have stays : trimStart (trim cs) = trim cs := by
    obtain ⟨trail, whole⟩ := List.rdropWhile_prefix isBlank (trimStart cs)
    rw [← trim_eq] at whole
    cases start : trim cs with
    | nil => rfl
    | cons c rest =>
      have first := List.head?_dropWhile_not isBlank cs
      rw [← trimStart, ← whole, start] at first
      exact List.dropWhile_cons_of_neg (Bool.eq_false_iff.mp first)
  rw [trim_eq, stays, trim_eq, List.rdropWhile_idempotent]

theorem rdropWhile_append_of_all {accepts : Char → Bool} {back : List Char}
    (all : ∀ c ∈ back, accepts c = true) (front : List Char) :
    (front ++ back).rdropWhile accepts = front.rdropWhile accepts := by
  unfold List.rdropWhile
  rw [List.reverse_append, List.dropWhile_append_of_pos fun c member =>
    all c (List.mem_reverse.mp member)]

theorem length_trim_le (cs : List Char) : (trim cs).length ≤ cs.length := by
  obtain ⟨lead, trail, whole, -⟩ := exists_trim cs
  have size := congrArg List.length whole
  rw [List.length_append, List.length_append] at size
  omega

namespace FlakeName

/-- A platform: blanks, the word "on", blanks, and what stands on the line from there. -/
def IsPlatform (mark : List Char) : Prop :=
  ∃ lead gap c rest, mark = lead ++ ("on".toList ++ (gap ++ c :: rest)) ∧
    (lead ≠ [] ∧ ∀ b ∈ lead, isBlank b = true) ∧ (gap ≠ [] ∧ ∀ b ∈ gap, isBlank b = true) ∧
    isBlank c = false ∧ '\n' ∉ rest

def IsRemark (mark : List Char) : Prop :=
  ∃ body trail, mark = '(' :: (body ++ ("patch)".toList ++ trail)) ∧
    (∀ c ∈ body, c ≠ '(' ∧ c ≠ ')') ∧ ∀ b ∈ trail, isBlank b = true

open Pattern

def platformParts : List Pattern :=
  [oneOrMore (.one isBlank), text "on", oneOrMore (.one isBlank), .one fun c => !isBlank c,
    .many (.one (· != '\n'))]

theorem platformSuffix_eq : platformSuffix = .seq (.notAfter isBlank) (toEnd platformParts) := rfl

theorem reads_platformParts {mark : List Char} :
    (inOrder platformParts).Reads mark ↔ IsPlatform mark := by
  constructor
  · rintro ⟨lead, _, rfl, first, _, _, rfl, word, gap, _, rfl, second, _, _, rfl, ⟨c, clear, rfl⟩,
      rest, _, rfl, line, rfl⟩
    cases reads_text.mp word
    refine ⟨lead, gap, c, rest, by simp, reads_oneOrMore_one.mp first,
      reads_oneOrMore_one.mp second, by simpa using clear, fun member => ?_⟩
    exact absurd (reads_many_one.mp line _ member) (by decide)
  · rintro ⟨lead, gap, c, rest, rfl, first, second, clear, line⟩
    refine ⟨lead, _, rfl, reads_oneOrMore_one.mpr first, _, _, rfl, reads_text.mpr rfl, gap, _, rfl,
      reads_oneOrMore_one.mpr second, [c], rest, rfl, ⟨c, by simpa using clear, rfl⟩, rest, [],
      (List.append_nil rest).symm, reads_many_one.mpr fun d member => ?_, rfl⟩
    exact bne_iff_ne.mpr fun same => line (same ▸ member)

theorem IsPlatform.after_blanks {lead mark : List Char} (blank : ∀ b ∈ lead, isBlank b = true)
    (platform : IsPlatform mark) : IsPlatform (lead ++ mark) := by
  obtain ⟨lead', gap, c, rest, rfl, ⟨something, blank'⟩, more⟩ := platform
  refine ⟨lead ++ lead', gap, c, rest, (List.append_assoc ..).symm, ⟨?_, fun b member => ?_⟩, more⟩
  · exact List.append_ne_nil_of_right_ne_nil lead something
  · exact (List.mem_append.mp member).elim (blank b) (blank' b)

theorem IsPlatform.on_line {mark back : List Char} (platform : IsPlatform mark)
    (line : '\n' ∉ back) : IsPlatform (mark ++ back) := by
  obtain ⟨lead, gap, c, rest, rfl, first, second, clear, line'⟩ := platform
  refine ⟨lead, gap, c, rest ++ back, by simp, first, second, clear, fun member => ?_⟩
  exact (List.mem_append.mp member).elim line' line

theorem IsPlatform.ne_nil {mark : List Char} (platform : IsPlatform mark) : mark ≠ [] := by
  obtain ⟨lead, gap, c, rest, rfl, ⟨something, -⟩, -⟩ := platform
  exact List.append_ne_nil_of_left_ne_nil something _

theorem removePlatform_cases (step : List Char) :
    (∃ gone, step = platformSuffix.removeFirst step ++ gone ∧ IsPlatform gone ∧
      ∀ front back, step = front ++ back → IsPlatform back →
        (platformSuffix.removeFirst step).length ≤ front.length) ∨
    (platformSuffix.removeFirst step = step ∧ ¬ EndsIn IsPlatform step) := by
  have plain : ∀ pattern ∈ platformParts, pattern.plain = true := by decide
  have cases := removeFirst_notAfter_cases plain
    (fun blank reads => reads_platformParts.mpr
      ((reads_platformParts.mp reads).after_blanks blank)) step
  rw [← platformSuffix_eq, EndsIn.congr @reads_platformParts] at cases
  simp only [reads_platformParts] at cases
  exact cases.imp_left fun ⟨gone, whole, platform, _, longest⟩ => ⟨gone, whole, platform, longest⟩

theorem platformSuffix_strips : platformSuffix.Strips IsPlatform where
  stays bare := by
    rcases removePlatform_cases _ with ⟨gone, whole, platform, -⟩ | ⟨stays, -⟩
    · exact absurd ⟨_, gone, whole, platform⟩ bare
    · exact stays
  shortens marked := by
    rcases removePlatform_cases _ with ⟨gone, whole, platform, -⟩ | ⟨-, bare⟩
    · exact ⟨gone, platform.ne_nil, whole⟩
    · exact absurd marked bare

/-- On one line, a platform takes with it all platforms before it. -/
theorem no_platform_left {step : List Char} (line : '\n' ∉ step) :
    ¬ EndsIn IsPlatform (platformSuffix.removeFirst step) := by
  rcases removePlatform_cases step with ⟨gone, whole, -, longest⟩ | ⟨stays, bare⟩
  · rintro ⟨front, back, left, platform⟩
    rw [left, List.append_assoc] at whole
    have line' : '\n' ∉ gone := fun member => line (whole ▸ by simp [member])
    have further := longest front _ whole (platform.on_line line')
    rw [left, List.length_append] at further
    have := List.length_pos_iff.mpr platform.ne_nil
    omega
  · rwa [stays]

def patchParts : List Pattern :=
  [.many (.one isBlank), text "(", .many (.one fun c => c != '(' && c != ')'), text "patch)",
    .many (.one isBlank)]

theorem patchSuffix_eq : patchSuffix = .seq (.notAfter isBlank) (toEnd patchParts) := rfl

theorem reads_patchParts {mark : List Char} :
    (inOrder patchParts).Reads mark ↔
      ∃ lead back, mark = lead ++ back ∧ (∀ b ∈ lead, isBlank b = true) ∧ IsRemark back := by
  constructor
  · rintro ⟨lead, _, rfl, first, _, _, rfl, opening, body, _, rfl, inside, _, _, rfl, closing,
      trail, _, rfl, last, rfl⟩
    cases reads_text.mp opening
    cases reads_text.mp closing
    refine ⟨lead, _, rfl, reads_many_one.mp first, body, trail, by simp, fun c member => ?_,
      reads_many_one.mp last⟩
    simpa using reads_many_one.mp inside c member
  · rintro ⟨lead, _, rfl, first, body, trail, rfl, inside, last⟩
    refine ⟨lead, _, rfl, reads_many_one.mpr first, ['('], _, rfl, reads_text.mpr rfl, body, _, rfl,
      reads_many_one.mpr fun c member => ?_, _, _, rfl, reads_text.mpr rfl, trail, [],
      (List.append_nil trail).symm, reads_many_one.mpr last, rfl⟩
    simpa using inside c member

theorem IsRemark.opens {mark : List Char} (remark : IsRemark mark) :
    ∃ rest, mark = '(' :: rest ∧ '(' ∉ rest := by
  obtain ⟨body, trail, rfl, inside, last⟩ := remark
  refine ⟨_, rfl, fun member => ?_⟩
  rcases List.mem_append.mp member with member | member
  · exact (inside _ member).1 rfl
  · rcases List.mem_append.mp member with member | member
    · exact absurd member (by decide)
    · exact absurd (last _ member) (by decide)

theorem IsRemark.before_blanks {mark trail : List Char} (remark : IsRemark mark)
    (blank : ∀ b ∈ trail, isBlank b = true) : IsRemark (mark ++ trail) := by
  obtain ⟨body, trail', rfl, inside, last⟩ := remark
  refine ⟨body, trail' ++ trail, by simp, inside, fun b member => ?_⟩
  exact (List.mem_append.mp member).elim (last b) (blank b)

theorem endsIn_remark_rdropWhile (cs : List Char) :
    EndsIn IsRemark (cs.rdropWhile isBlank) ↔ EndsIn IsRemark cs := by
  constructor
  · rintro ⟨front, back, whole, remark⟩
    refine ⟨front, back ++ cs.rtakeWhile isBlank, ?_,
      remark.before_blanks fun c => List.mem_rtakeWhile_imp⟩
    rw [← List.append_assoc, ← whole, List.rdropWhile_append_rtakeWhile]
  · rintro ⟨front, _, rfl, body, trail, rfl, inside, last⟩
    refine ⟨front, '(' :: (body ++ "patch)".toList), ?_, body, [], by simp, inside, by simp⟩
    have ends : front ++ '(' :: (body ++ ("patch)".toList ++ trail)) =
        front ++ '(' :: body ++ "patch".toList ++ [')'] ++ trail := by simp
    rw [ends, rdropWhile_append_of_all last, List.rdropWhile_concat_neg _ _ _ (by decide)]
    simp

theorem endsIn_remark_trimStart (cs : List Char) :
    EndsIn IsRemark (trimStart cs) ↔ EndsIn IsRemark cs := by
  constructor
  · rintro ⟨front, back, whole, remark⟩
    obtain ⟨lead, whole', -⟩ := exists_trimStart cs
    exact ⟨lead ++ front, back, by rw [List.append_assoc, ← whole, ← whole'], remark⟩
  · rintro ⟨front, back, rfl, remark⟩
    obtain ⟨rest, rfl, -⟩ := remark.opens
    exact ⟨trimStart front, _, trimStart_append_cons (by decide) front rest, remark⟩

theorem endsIn_remark_trim (cs : List Char) : EndsIn IsRemark (trim cs) ↔ EndsIn IsRemark cs := by
  rw [trim_eq, endsIn_remark_rdropWhile, endsIn_remark_trimStart]

theorem removePatch_cases (step : List Char) :
    (∃ lead back, step = patchSuffix.removeFirst step ++ lead ++ back ∧
      (∀ b ∈ lead, isBlank b = true) ∧ IsRemark back) ∨
    (patchSuffix.removeFirst step = step ∧ ¬ EndsIn IsRemark step) := by
  have takes {lead back : List Char} (blank : ∀ c ∈ lead, isBlank c = true)
      (reads : (inOrder patchParts).Reads back) : (inOrder patchParts).Reads (lead ++ back) := by
    obtain ⟨lead', mark, rfl, blank', remark⟩ := reads_patchParts.mp reads
    refine reads_patchParts.mpr ⟨lead ++ lead', mark, (List.append_assoc ..).symm, ?_, remark⟩
    exact fun b member => (List.mem_append.mp member).elim (blank b) (blank' b)
  rw [patchSuffix_eq]
  rcases removeFirst_notAfter_cases (by decide) takes step with
    ⟨gone, whole, reads, -⟩ | ⟨stays, bare⟩
  · obtain ⟨lead, back, rfl, blank, remark⟩ := reads_patchParts.mp reads
    exact .inl ⟨lead, back, by rwa [List.append_assoc], blank, remark⟩
  · refine .inr ⟨stays, ?_⟩
    rintro ⟨front, back, whole, remark⟩
    exact bare ⟨front, back, whole, reads_patchParts.mpr ⟨[], back, rfl, by simp, remark⟩⟩

theorem patchSuffix_strips : patchSuffix.Strips IsRemark where
  stays bare := by
    rcases removePatch_cases _ with ⟨lead, back, whole, -, remark⟩ | ⟨stays, -⟩
    · exact absurd ⟨_, back, whole, remark⟩ bare
    · exact stays
  shortens marked := by
    rcases removePatch_cases _ with ⟨lead, back, whole, -, remark⟩ | ⟨-, bare⟩
    · obtain ⟨rest, rfl, -⟩ := remark.opens
      exact ⟨lead ++ '(' :: rest, by simp, by rwa [← List.append_assoc]⟩
    · exact absurd marked bare

theorem remark_left_iff (step : List Char) :
    EndsIn IsRemark (patchSuffix.removeFirst step) ↔ EndsIn (Twice IsRemark) step := by
  rcases removePatch_cases step with ⟨lead, back, whole, blank, remark⟩ | ⟨stays, bare⟩
  · rw [whole, endsIn_twice_iff IsRemark.opens remark, ← endsIn_remark_rdropWhile (_ ++ lead),
      rdropWhile_append_of_all blank, endsIn_remark_rdropWhile, ← whole]
  · rw [stays]
    refine iff_of_false bare ?_
    rintro ⟨front, _, rfl, first, second, rfl, -, remark⟩
    exact bare ⟨front ++ first, second, (List.append_assoc ..).symm, remark⟩

theorem length_ofStep_le (step : List Char) : (ofStep step).length ≤ step.length :=
  calc (ofStep step).length
      ≤ (patchSuffix.removeFirst (platformSuffix.removeFirst step)).length := length_trim_le _
    _ ≤ (platformSuffix.removeFirst step).length := (patchSuffix_strips.kept _).length_le
    _ ≤ step.length := (platformSuffix_strips.kept step).length_le

theorem trim_ofStep (step : List Char) : trim (ofStep step) = ofStep step := trim_trim _

theorem ofStep_eq_self_iff {step : List Char} (trimmed : trim step = step) :
    ofStep step = step ↔ ¬ EndsIn IsPlatform step ∧ ¬ EndsIn IsRemark step := by
  constructor
  · intro same
    have size := congrArg List.length same
    have trims := length_trim_le (patchSuffix.removeFirst (platformSuffix.removeFirst step))
    have less := (patchSuffix_strips.kept (platformSuffix.removeFirst step)).length_le
    have noPlatform : ¬ EndsIn IsPlatform step := fun marked => by
      have shorter := platformSuffix_strips.length_lt marked
      unfold ofStep at size
      omega
    refine ⟨noPlatform, fun marked => ?_⟩
    have shorter := patchSuffix_strips.length_lt marked
    unfold ofStep at size
    rw [platformSuffix_strips.stays noPlatform] at size trims
    omega
  · rintro ⟨noPlatform, noRemark⟩
    unfold ofStep
    rw [platformSuffix_strips.stays noPlatform, patchSuffix_strips.stays noRemark, trimmed]

theorem ofStep_ofStep_iff (step : List Char) :
    ofStep (ofStep step) = ofStep step ↔
      ¬ EndsIn IsPlatform (ofStep step) ∧
        ¬ EndsIn (Twice IsRemark) (platformSuffix.removeFirst step) := by
  rw [ofStep_eq_self_iff (trim_ofStep step), ← remark_left_iff,
    ← endsIn_remark_trim (patchSuffix.removeFirst _)]
  rfl

theorem no_platform_in_ofStep {step : List Char} (line : '\n' ∉ step) :
    ¬ EndsIn IsPlatform (ofStep step) := by
  rintro ⟨front, back, whole, platform⟩
  obtain ⟨lead, trail, whole', -⟩ :=
    exists_trim (patchSuffix.removeFirst (platformSuffix.removeFirst step))
  obtain ⟨gone, whole''⟩ := patchSuffix_strips.kept (platformSuffix.removeFirst step)
  have inside : platformSuffix.removeFirst step = lead ++ front ++ (back ++ (trail ++ gone)) := by
    have named : trim (patchSuffix.removeFirst (platformSuffix.removeFirst step)) = front ++ back :=
      whole
    rw [← whole'', whole', named]
    simp
  have line' : '\n' ∉ trail ++ gone := fun member =>
    line ((platformSuffix_strips.kept step).subset (inside ▸ by simp [List.mem_append.mp member]))
  exact no_platform_left line ⟨_, _, inside, platform.on_line line'⟩

end FlakeName

end CulpritFinding
