import CulpritFinding.Proofs.Text.Lines
import CulpritFinding.Proofs.Text.Reading
import Mathlib.Data.List.DropRight

namespace CulpritFinding

namespace Pattern

variable {pattern : Pattern} {front back cs : List Char}

def MatchesAt (pattern : Pattern) (front back : List Char) : Prop :=
  ∃ q, pattern.Matches ⟨⟨front.getLast?, back, back.length⟩, []⟩ q

theorem matchAt?_eq_none_iff (front back : List Char) :
    pattern.matchAt? ⟨front.getLast?, back, back.length⟩ = none ↔
      ¬ pattern.MatchesAt front back := by
  rw [← Option.not_isSome_iff_eq_none]
  refine not_congr (run_isSome_iff.trans ?_)
  simp [MatchesAt]

theorem exists_matches_of_matchAt? (front back : List Char) {m : Match}
    (found : pattern.matchAt? ⟨front.getLast?, back, back.length⟩ = some m) :
    ∃ q, pattern.Matches ⟨⟨front.getLast?, back, back.length⟩, []⟩ q ∧
      m.groups = q.kept ∧ m.after = q.spot.rest := by
  obtain ⟨q, matched, made⟩ := exists_matches_of_run found
  cases made
  exact ⟨q, matched, rfl, rfl⟩

theorem replaceFrom_cases (takesAll : ∀ {p q}, pattern.Matches p q → q.spot.rest = [])
    (front back : List Char) :
    (∃ kept gone, back = kept ++ gone ∧
      pattern.replaceFrom (fun _ => []) front.getLast? back back.length = kept ∧
      pattern.MatchesAt (front ++ kept) gone ∧
      ∀ kept' gone', back = kept' ++ gone' → kept'.length < kept.length →
        ¬ pattern.MatchesAt (front ++ kept') gone') ∨
    (pattern.replaceFrom (fun _ => []) front.getLast? back back.length = back ∧
      ∀ kept gone, back = kept ++ gone → ¬ pattern.MatchesAt (front ++ kept) gone) := by
  induction back generalizing front with
  | nil =>
    have nothing :
        pattern.replaceFrom (fun _ => []) front.getLast? [] ([] : List Char).length = [] := by
      unfold replaceFrom
      split <;> rfl
    by_cases here : pattern.MatchesAt front []
    · exact .inl ⟨[], [], rfl, nothing, by rwa [List.append_nil], by simp⟩
    · refine .inr ⟨nothing, fun kept gone whole => ?_⟩
      obtain ⟨rfl, rfl⟩ := List.append_eq_nil_iff.mp whole.symm
      rwa [List.append_nil]
  | cons c rest ih =>
    unfold replaceFrom
    cases found : pattern.matchAt? ⟨front.getLast?, c :: rest, (c :: rest).length⟩ with
    | some m =>
      obtain ⟨q, matched, -, after⟩ := exists_matches_of_matchAt? front (c :: rest) found
      refine .inl ⟨[], c :: rest, rfl, ?_, ?_, by simp⟩
      · simp only [after, takesAll matched, List.append_nil]
      · rw [List.append_nil]
        exact ⟨q, matched⟩
    | none =>
      have here := (matchAt?_eq_none_iff front (c :: rest)).mp found
      have last : (front ++ [c]).getLast? = some c := List.getLast?_concat
      have step (kept : List Char) : front ++ [c] ++ kept = front ++ c :: kept := by simp
      rcases last ▸ ih (front ++ [c]) with
        ⟨kept, gone, rfl, removed, matches_, first⟩ | ⟨removed, nowhere⟩
      · refine .inl ⟨c :: kept, gone, rfl, congrArg (c :: ·) removed, step kept ▸ matches_, ?_⟩
        intro kept' gone' whole shorter
        cases kept' with
        | nil =>
          cases whole
          rwa [List.append_nil]
        | cons d kept' =>
          obtain ⟨rfl, tail⟩ := List.cons.inj whole
          exact step kept' ▸ first kept' gone' tail (Nat.lt_of_succ_lt_succ shorter)
      · refine .inr ⟨congrArg (c :: ·) removed, fun kept gone whole => ?_⟩
        cases kept with
        | nil =>
          cases whole
          rwa [List.append_nil]
        | cons d kept =>
          obtain ⟨rfl, tail⟩ := List.cons.inj whole
          exact step kept ▸ nowhere kept gone tail

/-- What is left of a text without the end that a pattern matches: all of it if it matches nowhere,
or else what stands before the first place at which it matches. -/
theorem removeFirst_cases (takesAll : ∀ {p q}, pattern.Matches p q → q.spot.rest = [])
    (cs : List Char) :
    (∃ gone, cs = pattern.removeFirst cs ++ gone ∧ pattern.MatchesAt (pattern.removeFirst cs) gone ∧
      ∀ kept' gone', cs = kept' ++ gone' → kept'.length < (pattern.removeFirst cs).length →
        ¬ pattern.MatchesAt kept' gone') ∨
    (pattern.removeFirst cs = cs ∧
      ∀ kept gone, cs = kept ++ gone → ¬ pattern.MatchesAt kept gone) := by
  rcases replaceFrom_cases takesAll [] cs with ⟨kept, gone, whole, removed, found⟩ | nowhere
  · have removed : pattern.removeFirst cs = kept := removed
    rw [removed]
    exact .inl ⟨gone, whole, found⟩
  · exact .inr nowhere

theorem matchesAt_toEnd_iff {ps : List Pattern} (plain : ∀ pattern ∈ ps, pattern.plain = true) :
    (toEnd ps).MatchesAt front back ↔ (inOrder ps).Reads back :=
  matches_toEnd_iff plain rfl

theorem matchesAt_notAfter_iff {ps : List Pattern} (plain : ∀ pattern ∈ ps, pattern.plain = true)
    {accepts : Char → Bool} :
    (Pattern.seq (.notAfter accepts) (toEnd ps)).MatchesAt front back ↔
      front.getLast?.any accepts = false ∧ (inOrder ps).Reads back := by
  rw [← matchesAt_toEnd_iff plain]
  constructor
  · rintro ⟨q, matched⟩
    cases matched with
    | seq one others =>
      cases one with
      | notAfter clear => exact ⟨clear, q, others⟩
  · rintro ⟨clear, q, others⟩
    exact ⟨q, .seq (.notAfter clear) others⟩

end Pattern

/-- Whether a text ends in a mark. -/
def EndsIn (mark : List Char → Prop) (cs : List Char) : Prop :=
  ∃ front back, cs = front ++ back ∧ mark back

def Twice (mark : List Char → Prop) (cs : List Char) : Prop :=
  ∃ first second, cs = first ++ second ∧ mark first ∧ mark second

theorem EndsIn.congr {mark mark' : List Char → Prop} (same : ∀ back, mark back ↔ mark' back)
    (cs : List Char) : EndsIn mark cs ↔ EndsIn mark' cs := by
  simp only [EndsIn, same]

section

variable {mark : List Char → Prop} {opener : Char} {front front' back back' cs : List Char}

theorem eq_of_opener (opens : ∀ {back}, mark back → ∃ rest, back = opener :: rest ∧ opener ∉ rest)
    (marked : mark back) (marked' : mark back') (same : front ++ back = front' ++ back') :
    front = front' := by
  obtain ⟨rest, rfl, apart⟩ := opens marked
  obtain ⟨rest', rfl, apart'⟩ := opens marked'
  have split := congrArg (splitAtLast? opener) same
  rw [splitAtLast?_append apart, splitAtLast?_append apart'] at split
  exact congrArg Prod.fst (Option.some.inj split)

theorem endsIn_twice_iff
    (opens : ∀ {back}, mark back → ∃ rest, back = opener :: rest ∧ opener ∉ rest)
    (marked : mark back) : EndsIn (Twice mark) (front ++ back) ↔ EndsIn mark front := by
  constructor
  · rintro ⟨before, _, whole, first, second, rfl, marked', marked''⟩
    rw [← List.append_assoc] at whole
    exact ⟨before, first, eq_of_opener opens marked marked'' whole, marked'⟩
  · rintro ⟨before, first, rfl, marked'⟩
    exact ⟨before, first ++ back, List.append_assoc .., first, back, rfl, marked', marked⟩

theorem endsIn_append_iff
    (apart : ∀ begun rest, begun ≠ [] → begun <:+ front → ¬ mark (begun ++ rest)) :
    EndsIn mark (front ++ cs) ↔ EndsIn mark cs := by
  constructor
  · rintro ⟨before, back, whole, marked⟩
    rcases List.append_eq_append_iff.mp whole with ⟨inner, rfl, rfl⟩ | ⟨begun, rfl, rfl⟩
    · exact ⟨inner, back, rfl, marked⟩
    · cases begun with
      | nil => exact ⟨[], cs, rfl, marked⟩
      | cons c begun =>
        exact absurd marked (apart _ cs (List.cons_ne_nil c begun) (List.suffix_append ..))
  · rintro ⟨before, back, rfl, marked⟩
    exact ⟨front ++ before, back, (List.append_assoc ..).symm, marked⟩

end

namespace Pattern

variable {ps : List Pattern}

theorem removeFirst_toEnd_cases (plain : ∀ pattern ∈ ps, pattern.plain = true) (cs : List Char) :
    (∃ gone, cs = (toEnd ps).removeFirst cs ++ gone ∧ (inOrder ps).Reads gone) ∨
    ((toEnd ps).removeFirst cs = cs ∧ ¬ EndsIn (inOrder ps).Reads cs) := by
  rcases removeFirst_cases Matches.rest_of_toEnd cs with ⟨gone, whole, found, -⟩ | ⟨stays, nowhere⟩
  · exact .inl ⟨gone, whole, (matchesAt_toEnd_iff plain).mp found⟩
  · refine .inr ⟨stays, ?_⟩
    rintro ⟨front, back, whole, reads⟩
    exact nowhere front back whole ((matchesAt_toEnd_iff plain).mpr reads)

/-- If a mark takes the characters it must not stand after, then all of them are removed with it,
and it is removed where it is longest. -/
theorem removeFirst_notAfter_cases (plain : ∀ pattern ∈ ps, pattern.plain = true)
    {accepts : Char → Bool}
    (takes : ∀ {lead back}, (∀ c ∈ lead, accepts c = true) → (inOrder ps).Reads back →
      (inOrder ps).Reads (lead ++ back)) (cs : List Char) :
    let left := (Pattern.seq (.notAfter accepts) (toEnd ps)).removeFirst cs
    (∃ gone, cs = left ++ gone ∧ (inOrder ps).Reads gone ∧ left.getLast?.any accepts = false ∧
      ∀ front back, cs = front ++ back → (inOrder ps).Reads back → left.length ≤ front.length) ∨
    (left = cs ∧ ¬ EndsIn (inOrder ps).Reads cs) := by
  have takesAll {p q : Progress}
      (matched : (Pattern.seq (.notAfter accepts) (toEnd ps)).Matches p q) : q.spot.rest = [] := by
    cases matched with
    | seq _ others => exact others.rest_of_toEnd
  -- A mark can be taken from where the characters before it start.
  have earlier {front back : List Char} (reads : (inOrder ps).Reads back) :
      ∃ front' back', front ++ back = front' ++ back' ∧ front'.length ≤ front.length ∧
        (Pattern.seq (.notAfter accepts) (toEnd ps)).MatchesAt front' back' := by
    have whole : front.rdropWhile accepts ++ front.rtakeWhile accepts = front :=
      List.rdropWhile_append_rtakeWhile
    refine ⟨front.rdropWhile accepts, front.rtakeWhile accepts ++ back, ?_, ?_, ?_⟩
    · rw [← List.append_assoc, whole]
    · exact List.IsPrefix.length_le ( List.rdropWhile_prefix accepts front)
    · refine (matchesAt_notAfter_iff plain).mpr ⟨?_, takes (fun c => List.mem_rtakeWhile_imp) reads⟩
      by_cases nothing : front.rdropWhile accepts = []
      · rw [nothing]
        rfl
      · rw [List.getLast?_eq_some_getLast nothing]
        simpa using List.rdropWhile_last_not accepts front nothing
  intro left
  rcases removeFirst_cases takesAll cs with ⟨gone, whole, found, first⟩ | ⟨stays, nowhere⟩
  · obtain ⟨clear, reads⟩ := (matchesAt_notAfter_iff plain).mp found
    refine .inl ⟨gone, whole, reads, clear, fun front back whole' reads' => ?_⟩
    obtain ⟨front', back', whole'', shorter, matches_⟩ := earlier reads'
    refine Nat.le_of_not_lt fun further => ?_
    exact first front' back' (whole'.trans whole'') (Nat.lt_of_le_of_lt shorter further) matches_
  · refine .inr ⟨stays, ?_⟩
    rintro ⟨front, back, whole, reads⟩
    obtain ⟨front', back', whole', -, matches_⟩ := earlier reads
    exact nowhere front' back' (whole.trans whole') matches_

/-- A pattern that takes a mark, and nothing else, off the end of a text. -/
structure Strips (pattern : Pattern) (mark : List Char → Prop) : Prop where
  stays {cs : List Char} : ¬ EndsIn mark cs → pattern.removeFirst cs = cs
  shortens {cs : List Char} : EndsIn mark cs →
    ∃ gone, gone ≠ [] ∧ cs = pattern.removeFirst cs ++ gone

section

variable {pattern : Pattern} {mark : List Char → Prop}

theorem Strips.kept (strips : pattern.Strips mark) (cs : List Char) :
    pattern.removeFirst cs <+: cs := by
  by_cases marked : EndsIn mark cs
  · obtain ⟨gone, -, whole⟩ := strips.shortens marked
    exact ⟨gone, whole.symm⟩
  · exact ⟨[], (List.append_nil _).trans (strips.stays marked)⟩

theorem Strips.length_lt (strips : pattern.Strips mark) {cs : List Char} (marked : EndsIn mark cs) :
    (pattern.removeFirst cs).length < cs.length := by
  obtain ⟨gone, something, whole⟩ := strips.shortens marked
  have size := congrArg List.length whole
  rw [List.length_append] at size
  have := List.length_pos_iff.mpr something
  omega

end

section

variable {body : Pattern} {replacement : Match → List Char}

theorem replaceFrom_atStart_some (c : Char) (cs : List Char) (left : Nat) :
    (Pattern.seq .atStart body).replaceFrom replacement (some c) cs left = cs := by
  induction cs generalizing c left with
  | nil => rfl
  | cons d cs ih => exact congrArg (d :: ·) (ih d (left - 1))

theorem replaceFirst_atStart (cs : List Char) :
    (Pattern.seq .atStart body).replaceFirst replacement cs =
      (body.matchAt? (Spot.start cs)).elim cs fun m => replacement m ++ m.after := by
  have start : (Pattern.seq .atStart body).matchAt? (Spot.start cs) =
      body.matchAt? (Spot.start cs) := rfl
  rw [← start]
  unfold replaceFirst
  cases cs with
  | nil =>
    unfold replaceFrom
    split
    · rename_i missing
      rw [Spot.start, missing]
      rfl
    · rename_i m found
      obtain ⟨q, matched, -, after⟩ := exists_matches_of_matchAt? [] [] found
      obtain ⟨counted, less⟩ := matched.counted rfl
      have ended : q.spot.rest = [] :=
        List.eq_nil_of_length_eq_zero (counted.symm.trans (Nat.le_zero.mp less))
      rw [Spot.start, found, Option.elim_some, after, ended, List.append_nil]
  | cons c cs =>
    unfold replaceFrom
    rw [replaceFrom_atStart_some]
    split
    · rename_i missing
      rw [Spot.start, missing]
      rfl
    · rename_i m found
      rw [Spot.start, found, Option.elim_some]

theorem removeFirst_repeated {repeated : Pattern} (plain : repeated.plain = true)
    (consumes : repeated.consumes = true) (cs : List Char) :
    ∃ gone, cs = gone ++ (Pattern.seq .atStart (oneOrMore repeated)).removeFirst cs ∧
      (∀ c, repeated.shuns c = true → c ∉ gone) ∧
      ∀ front back, (Pattern.seq .atStart (oneOrMore repeated)).removeFirst cs = front ++ back →
        ¬ repeated.Reads front := by
  unfold removeFirst
  rw [replaceFirst_atStart]
  cases found : (oneOrMore repeated).matchAt? (Spot.start cs) with
  | none =>
    refine ⟨[], rfl, fun _ _ => List.not_mem_nil, fun front back whole reads => ?_⟩
    obtain ⟨q, once, -⟩ := reads.exists_matches ⟨Spot.start cs, []⟩ rfl whole
    exact (matchAt?_eq_none_iff [] cs).mp found ⟨q, .seq once .stop⟩
  | some m =>
    have found : repeated.run ((many repeated).run fun q => some ((Spot.start cs).matched q))
        ⟨Spot.start cs, []⟩ = some m := found
    obtain ⟨p, once, found⟩ := exists_matches_of_run found
    obtain ⟨q, more, made, longest⟩ := exists_longest_of_run found
    obtain ⟨front, reads, past⟩ := once.reads plain rfl
    obtain ⟨back, reads', past'⟩ := more.reads plain past.counted
    cases made
    refine ⟨front ++ back, ?_, fun c shuns member => ?_, fun front' back' whole reads'' => ?_⟩
    · have whole : cs = front ++ p.spot.rest := past.rest
      rw [whole, past'.rest, List.append_assoc]
      rfl
    · exact (List.mem_append.mp member).elim (reads.not_mem shuns)
        (reads'.not_mem (show (many repeated).shuns c = true from shuns))
    · obtain ⟨q', again, -⟩ := reads''.exists_matches q past'.counted whole
      exact Nat.not_lt_of_le (longest q' again) (again.left_lt past'.counted consumes)

theorem removeFirst_repeated_of_bare {repeated : Pattern} (plain : repeated.plain = true)
    {cs : List Char} (bare : ∀ front back, cs = front ++ back → ¬ repeated.Reads front) :
    (Pattern.seq .atStart (oneOrMore repeated)).removeFirst cs = cs := by
  unfold removeFirst
  rw [replaceFirst_atStart]
  cases found : (oneOrMore repeated).matchAt? (Spot.start cs) with
  | none => rfl
  | some m =>
    obtain ⟨q, matched, -⟩ := exists_matches_of_matchAt? [] cs found
    cases matched with
    | seq once more =>
      obtain ⟨front, reads, past⟩ := once.reads plain rfl
      exact absurd reads (bare front _ past.rest)

end

end Pattern

end CulpritFinding
