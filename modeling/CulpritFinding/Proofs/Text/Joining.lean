import CulpritFinding.Proofs.Text.Extension

namespace CulpritFinding

namespace Pattern

section

variable {pattern : Pattern} {ρ : Type}

theorem matchAt?_text_length {s : Spot} {m : Match} (found : pattern.matchAt? s = some m) :
    m.text.length ≤ s.rest.length := by
  obtain ⟨q, -, made⟩ := exists_matches_of_run found
  cases made
  exact List.length_take_le' ..

theorem matchAt?_text_pos (consumes : pattern.consumes = true) {s : Spot}
    (counted : s.left = s.rest.length) {m : Match} (found : pattern.matchAt? s = some m) :
    0 < m.text.length := by
  obtain ⟨q, matched, made⟩ := exists_matches_of_run found
  cases made
  have less : q.spot.left < s.left := matched.left_lt counted consumes
  simp only [List.length_take]
  omega

theorem run_nil (consumes : pattern.consumes = true) (next : Progress → Option ρ)
    (before : Option Char) (kept : List (Nat × List Char)) :
    pattern.run next ⟨⟨before, [], 0⟩, kept⟩ = none := by
  cases found : pattern.run next ⟨⟨before, [], 0⟩, kept⟩ with
  | none => rfl
  | some r =>
    obtain ⟨q, matched, -⟩ := exists_matches_of_run found
    exact absurd (matched.left_lt rfl consumes) (Nat.not_lt_zero _)

theorem matchAt?_nil (consumes : pattern.consumes = true) (before : Option Char) :
    pattern.matchAt? ⟨before, [], 0⟩ = none :=
  run_nil consumes _ before []

end

def Match.Same (m m' : Match) : Prop := m.text = m'.text ∧ m.groups = m'.groups

theorem same_matched {s s' : Spot} {behind : List Char}
    (start : Progress.Extends behind ⟨s, []⟩ ⟨s', []⟩) {p q : Progress}
    (further : p.Extends behind q) : (s.matched p).Same (s'.matched q) :=
  ⟨start.taken further, further.kept⟩

section

variable {pattern : Pattern} {γ : Type} {content : Match → γ} {separator : Char}

/-- What a search finds in a joined text, if it finds the same in its first part, whatever follows,
and the same from the separator on as in the second part alone. -/
theorem map_matchesFrom_join (extent : Match → Match → Prop)
    (within : ∀ before c rest behind, Option.Rel extent
      (pattern.matchAt? ⟨before, c :: rest ++ separator :: behind,
        (c :: rest ++ separator :: behind).length⟩)
      (pattern.matchAt? ⟨before, c :: rest, (c :: rest).length⟩))
    (same : ∀ m m', extent m m' → m.text.length = m'.text.length ∧ content m = content m')
    (ends : ∀ before, pattern.matchAt? ⟨before, [], 0⟩ = none)
    {second : List Char}
    (starts : ∀ before, (pattern.matchesFrom before (separator :: second)
        (separator :: second).length 0).map content = (pattern.findAll second).map content)
    (first : List Char) (before : Option Char) {skip : Nat} (covered : skip ≤ first.length) :
    (pattern.matchesFrom before (first ++ separator :: second)
        (first ++ separator :: second).length skip).map content =
      (pattern.matchesFrom before first first.length skip).map content ++
        (pattern.findAll second).map content := by
  induction first generalizing before skip with
  | nil =>
    have none_ : skip = 0 := Nat.le_zero.mp covered
    subst none_
    have nothing : pattern.matchesFrom before [] ([] : List Char).length 0 = [] := by
      unfold matchesFrom
      rw [List.length_nil, ends]
      rfl
    rw [nothing]
    exact starts before
  | cons c rest ih =>
    cases skip with
    | succ skip =>
      rw [List.cons_append, matchesFrom, matchesFrom]
      exact ih (some c) (Nat.le_of_succ_le_succ covered)
    | zero =>
      have related := within before c rest second
      rw [List.cons_append, matchesFrom, matchesFrom]
      rw [List.cons_append] at related
      generalize found : pattern.matchAt? ⟨before, c :: (rest ++ separator :: second), _⟩ = m at *
      generalize found' : pattern.matchAt? ⟨before, c :: rest, _⟩ = m' at *
      cases related with
      | none => exact ih (some c) (Nat.zero_le _)
      | some related =>
        rename_i m m'
        obtain ⟨size, content⟩ := same _ _ related
        have bound := matchAt?_text_length found'
        rw [List.length_cons] at bound
        simp only [List.map_cons, List.cons_append, size, content]
        exact congrArg _ (ih (some c) (by omega))

end

section

variable {pattern : Pattern} {separator : Char} {ρ : Type}

theorem matchAt?_extends (floats : pattern.floats = true) (behind : List Char)
    (edge : behind.head?.any isWord = false)
    (shuns : ∀ c ∈ behind.head?, pattern.shuns c = true) {before before' : Option Char}
    (sameEdge : before.any isWord = before'.any isWord) (rest : List Char) :
    Option.Rel Match.Same (pattern.matchAt? ⟨before, rest ++ behind, (rest ++ behind).length⟩)
      (pattern.matchAt? ⟨before', rest, rest.length⟩) := by
  have start : Progress.Extends behind ⟨⟨before, rest ++ behind, (rest ++ behind).length⟩, []⟩
      ⟨⟨before', rest, rest.length⟩, []⟩ := ⟨sameEdge, rfl, rfl, rfl, rfl⟩
  exact run_extends behind edge floats (fun p q further => .some (same_matched start further))
    (.inl shuns) start

theorem run_of_shunned (floats : pattern.floats = true) (consumes : pattern.consumes = true)
    (shuns : pattern.shuns separator = true) (edge : isWord separator = false)
    (next : Progress → Option ρ) (before : Option Char) (rest : List Char)
    (kept : List (Nat × List Char)) :
    pattern.run next ⟨⟨before, separator :: rest, (separator :: rest).length⟩, kept⟩ = none := by
  let p : Progress := ⟨⟨before, separator :: rest, (separator :: rest).length⟩, kept⟩
  -- It would match at the end of a text too, whatever is to follow.
  have related : Option.Rel (fun _ _ : Unit => True) (pattern.run (fun _ => some ()) p)
      (pattern.run (fun _ => some ()) ⟨⟨before, [], 0⟩, kept⟩) :=
    run_extends (separator :: rest) edge floats (fun _ _ _ => .some trivial)
      (.inl (by rintro c ⟨⟩; exact shuns)) ⟨rfl, rfl, rfl, rfl, rfl⟩
  rw [run_nil consumes] at related
  cases found : pattern.run next p with
  | none => rfl
  | some r =>
    obtain ⟨q, matched, -⟩ := exists_matches_of_run found
    have starts := matched.run_isSome (fun _ => some ()) rfl
    generalize pattern.run (fun _ => some ()) p = run at related starts
    cases related
    cases starts

theorem find?_concat (consumes : pattern.consumes = true) {c : Char}
    (further : ∀ before rest, Option.Rel Match.Same
      (pattern.matchAt? ⟨before, rest ++ [c], (rest ++ [c]).length⟩)
      (pattern.matchAt? ⟨before, rest, rest.length⟩)) (cs : List Char) :
    Option.Rel Match.Same (pattern.find? (cs ++ [c])) (pattern.find? cs) := by
  have from_ (before : Option Char) : Option.Rel Match.Same
      (pattern.findFrom? before (cs ++ [c]) (cs ++ [c]).length)
      (pattern.findFrom? before cs cs.length) := by
    induction cs generalizing before with
    | nil =>
      show Option.Rel _ (pattern.matchAt? ⟨before, [c], _⟩ <|> pattern.matchAt? ⟨some c, [], 0⟩) _
      rw [matchAt?_nil consumes, Option.orElse_eq_orElse, Option.orElse_eq_or, Option.or_none]
      exact further before []
    | cons d rest ih => exact Option.Rel.orElse (further before (d :: rest)) (ih (some d))
  exact from_ none

theorem map_text_starts (floats : pattern.floats = true) (consumes : pattern.consumes = true)
    (shuns : pattern.shuns separator = true) (edge : isWord separator = false)
    (before : Option Char) (second : List Char) :
    (pattern.matchesFrom before (separator :: second)
        (separator :: second).length 0).map (·.text) =
      (pattern.findAll second).map (·.text) := by
  have nothing : pattern.matchAt? ⟨before, separator :: second, (separator :: second).length⟩ =
      none := run_of_shunned floats consumes shuns edge _ before second []
  rw [matchesFrom, nothing]
  show (pattern.matchesFrom (some separator) second second.length 0).map _ =
    (pattern.matchesFrom none second second.length 0).map _
  have related : Option.Rel Match.Same
      (pattern.matchAt? ⟨some separator, second ++ [], (second ++ []).length⟩)
      (pattern.matchAt? ⟨none, second, second.length⟩) := by
    refine matchAt?_extends floats [] rfl (by simp) ?_ second
    exact edge
  rw [List.append_nil] at related
  cases second with
  | nil =>
    rw [matchesFrom, matchesFrom, List.length_nil, matchAt?_nil consumes, matchAt?_nil consumes]
  | cons c rest =>
    rw [matchesFrom, matchesFrom]
    generalize pattern.matchAt? ⟨some separator, c :: rest, _⟩ = m at *
    generalize pattern.matchAt? ⟨none, c :: rest, _⟩ = m' at *
    cases related with
    | none => rfl
    | some same => simp only [List.map_cons, same.1]

/-- A pattern without anchors that does not accept the separator finds in a joined text what it
finds in the parts. -/
theorem map_text_findAll_join (floats : pattern.floats = true) (consumes : pattern.consumes = true)
    (shuns : pattern.shuns separator = true) (edge : isWord separator = false)
    (first second : List Char) :
    (pattern.findAll (first ++ separator :: second)).map (·.text) =
      (pattern.findAll first).map (·.text) ++ (pattern.findAll second).map (·.text) := by
  refine map_matchesFrom_join Match.Same (fun before c rest behind => ?_)
    (fun m m' same => ⟨congrArg _ same.1, same.1⟩) (matchAt?_nil consumes)
    (fun before => map_text_starts floats consumes shuns edge before second) first none
    (Nat.zero_le _)
  exact matchAt?_extends floats (separator :: behind) edge
    (by rintro c ⟨⟩; exact shuns) rfl (c :: rest)

end

def opened (opens : Char → Bool) (body : Pattern) : Pattern :=
  .seq (.either .atStart (.one opens)) body

section

variable {opens : Char → Bool} {body : Pattern} {separator : Char} {ρ ρ' : Type}

theorem opened_run (next : Progress → Option ρ) (before : Option Char) (c : Char)
    (rest : List Char) (left : Nat) (kept : List (Nat × List Char)) :
    (opened opens body).run next ⟨⟨before, c :: rest, left⟩, kept⟩ =
      ((if before.isNone then body.run next ⟨⟨before, c :: rest, left⟩, kept⟩ else none) <|>
        if opens c then body.run next ⟨⟨some c, rest, left - 1⟩, kept⟩ else none) := rfl

theorem opened_consumes (consumes : body.consumes = true) :
    (opened opens body).consumes = true := by
  unfold opened Pattern.consumes
  rw [consumes, Bool.or_true]

theorem opened_matchAt?_extends (floats : body.floats = true) (shuns : body.shuns separator = true)
    (edge : isWord separator = false) (before : Option Char) (c : Char)
    (rest behind : List Char) :
    Option.Rel Match.Same
      ((opened opens body).matchAt? ⟨before, c :: rest ++ separator :: behind,
        (c :: rest ++ separator :: behind).length⟩)
      ((opened opens body).matchAt? ⟨before, c :: rest, (c :: rest).length⟩) := by
  let place : Spot :=
    ⟨before, c :: rest ++ separator :: behind, (c :: rest ++ separator :: behind).length⟩
  let place' : Spot := ⟨before, c :: rest, (c :: rest).length⟩
  have own {p q : Progress} (further : p.Extends (separator :: behind) q) :
      (place.matched p).Same (place'.matched q) := by
    have start : Progress.Extends (separator :: behind) ⟨place, []⟩ ⟨place', []⟩ :=
      ⟨rfl, rfl, rfl, rfl, rfl⟩
    exact same_matched start further
  have extended {p q : Progress} (further : p.Extends (separator :: behind) q) :=
    run_extends (separator :: behind) edge floats (fun p q further => .some (own further))
      (.inl (by rintro c ⟨⟩; exact shuns)) further
  rw [matchAt?_eq, matchAt?_eq, List.cons_append, opened_run, opened_run]
  refine Option.Rel.orElse ?_ ?_
  · split
    · exact extended ⟨rfl, rfl, rfl, rfl, rfl⟩
    · exact .none
  · split
    · exact extended ⟨rfl, rfl, rfl, rfl, rfl⟩
    · exact .none

theorem opened_matchAt?_separator (floats : body.floats = true) (consumes : body.consumes = true)
    (shuns : body.shuns separator = true) (opening : opens separator = true)
    (edge : isWord separator = false) (before : Option Char) (second : List Char) :
    Option.Rel (fun m m' : Match => m.text.length - 1 = m'.text.length ∧ m.groups = m'.groups)
      ((opened opens body).matchAt? ⟨before, separator :: second, (separator :: second).length⟩)
      (body.matchAt? ⟨none, second, second.length⟩) := by
  rw [matchAt?_eq, matchAt?_eq, opened_run,
    run_of_shunned floats consumes shuns edge, if_pos opening, ite_self]
  refine run_extends [] rfl floats
    (fun p q further => .some ⟨?_, further.kept⟩) (.inl (by simp))
    ⟨edge, (List.append_nil second).symm, rfl, rfl, rfl⟩
  have left := further.left
  simp only [Spot.matched, List.length_take, List.length_cons, List.length_nil] at left ⊢
  omega

theorem map_groups_starts (floats : body.floats = true) (consumes : body.consumes = true)
    (shuns : body.shuns separator = true) (opening : opens separator = true)
    (edge : isWord separator = false) (before : Option Char) (second : List Char) :
    ((opened opens body).matchesFrom before (separator :: second)
        (separator :: second).length 0).map (·.groups) =
      ((opened opens body).findAll second).map (·.groups) := by
  have related := opened_matchAt?_separator floats consumes shuns opening edge before second
  have nothing (before : Option Char) : (opened opens body).matchAt? ⟨before, [], 0⟩ = none :=
    matchAt?_nil (opened_consumes consumes) before
  unfold findAll
  rw [matchesFrom]
  generalize (opened opens body).matchAt? ⟨before, separator :: second, _⟩ = m at *
  generalize found : body.matchAt? ⟨none, second, second.length⟩ = m' at *
  cases second with
  | nil =>
    rw [List.length_nil, matchAt?_nil consumes] at found
    cases found
    cases related
    show (matchesFrom _ (some separator) [] 0 0).map _ = _
    rw [matchesFrom, List.length_nil, matchesFrom, nothing, nothing]
  | cons c rest =>
    have behind : (opened opens body).matchAt? ⟨none, c :: rest, (c :: rest).length⟩ =
        (m' <|> (opened opens body).matchAt? ⟨some separator, c :: rest, (c :: rest).length⟩) := by
      rw [← found]
      rfl
    cases related with
    | none =>
      show (matchesFrom _ (some separator) (c :: rest) (c :: rest).length 0).map _ = _
      rw [matchesFrom, matchesFrom, behind]
      rfl
    | some related =>
      rename_i m m'
      have size := matchAt?_text_pos consumes rfl found
      obtain ⟨skip, skipped⟩ := Nat.exists_eq_succ_of_ne_zero (Nat.ne_of_gt size)
      show m.groups :: (matchesFrom _ (some separator) (c :: rest) _ _).map _ = _
      rw [related.1, related.2, skipped, matchesFrom, matchesFrom, behind]
      simp [skipped]

/-- A pattern that has to stand at the start of a text or after an opening character finds in a
joined text what it finds in the parts, if its body does not accept the separator and the separator
opens. -/
theorem map_groups_findAll_join (floats : body.floats = true) (consumes : body.consumes = true)
    (shuns : body.shuns separator = true) (opening : opens separator = true)
    (edge : isWord separator = false) (first second : List Char) :
    ((opened opens body).findAll (first ++ separator :: second)).map (·.groups) =
      ((opened opens body).findAll first).map (·.groups) ++
        ((opened opens body).findAll second).map (·.groups) :=
  map_matchesFrom_join Match.Same
    (fun before c rest behind => opened_matchAt?_extends floats shuns edge before c rest behind)
    (fun _ _ same => ⟨congrArg _ same.1, same.2⟩)
    (matchAt?_nil (opened_consumes consumes))
    (fun before => map_groups_starts floats consumes shuns opening edge before second) first none
    (Nat.zero_le _)

end

end Pattern

end CulpritFinding
