import CulpritFinding.Text.Pattern
import Mathlib.Data.Option.Basic

namespace CulpritFinding

variable {ρ : Type}

namespace Pattern

/-- Whether a pattern leads from one place to another. A repetition goes on only with something
consumed. -/
inductive Matches : Pattern → Progress → Progress → Prop
  | nothing {p : Progress} : Matches .nothing p p
  | one {accepts : Char → Bool} {p : Progress} {c : Char} {rest : List Char}
      (ahead : p.spot.rest = c :: rest) (accepted : accepts c = true) :
      Matches (.one accepts) p { p with spot := ⟨some c, rest, p.spot.left - 1⟩ }
  | atStart {p : Progress} (first : p.spot.before = none) : Matches .atStart p p
  | atEnd {p : Progress} (last : p.spot.rest = []) : Matches .atEnd p p
  | wordEdge {p : Progress} (edge : p.spot.isWordEdge = true) : Matches .wordEdge p p
  | notAfter {accepts : Char → Bool} {p : Progress} (clear : p.spot.before.any accepts = false) :
      Matches (.notAfter accepts) p p
  | seq {first second : Pattern} {p q r : Progress} (one : Matches first p q)
      (other : Matches second q r) : Matches (.seq first second) p r
  | first {first second : Pattern} {p q : Progress} (one : Matches first p q) :
      Matches (.either first second) p q
  | second {first second : Pattern} {p q : Progress} (other : Matches second p q) :
      Matches (.either first second) p q
  | stop {repeated : Pattern} {p : Progress} : Matches (.many repeated) p p
  | again {repeated : Pattern} {p q r : Progress} (once : Matches repeated p q)
      (consumed : q.spot.left < p.spot.left) (more : Matches (.many repeated) q r) :
      Matches (.many repeated) p r
  | group {number : Nat} {inner : Pattern} {p q : Progress} (inside : Matches inner p q) :
      Matches (.group number inner) p
        { q with kept := (number, p.spot.rest.take (p.spot.left - q.spot.left)) :: q.kept }

theorem longestRepeat_none {step : (Progress → Option ρ) → Progress → Option ρ}
    (dead : ∀ p, step (fun _ => none) p = none) (fuel : Nat) (p : Progress) :
    longestRepeat step (fun _ => none) fuel p = none := by
  induction fuel generalizing p with
  | zero => rfl
  | succ fuel ih =>
    unfold longestRepeat
    simp only [ih, ite_self, dead]
    rfl

theorem run_none (pattern : Pattern) (p : Progress) :
    pattern.run (fun _ => (none : Option ρ)) p = none := by
  induction pattern generalizing p with
  | nothing => rfl
  | one accepts =>
    unfold run
    split <;> simp
  | atStart | atEnd | wordEdge | notAfter => simp [run]
  | seq first second ih ih' =>
    unfold run
    rw [funext ih']
    exact ih p
  | either first second ih ih' =>
    unfold run
    rw [ih, ih']
    rfl
  | many repeated ih => exact longestRepeat_none ih p.spot.left p
  | group number inner ih => exact ih p

/-- What is left of a text bounds how often a repetition can be tried. -/
theorem longestRepeat_of_enough {step : (Progress → Option ρ) → Progress → Option ρ}
    (dead : ∀ p, step (fun _ => none) p = none) (next : Progress → Option ρ) {fuel fuel' : Nat}
    {p : Progress} (enough : p.spot.left ≤ fuel) (enough' : p.spot.left ≤ fuel') :
    longestRepeat step next fuel p = longestRepeat step next fuel' p := by
  -- Without anything left no try consumes anything, and the repetition ends.
  have stops : ∀ {fuel : Nat} {p : Progress}, p.spot.left = 0 →
      longestRepeat step next fuel p = next p := by
    intro fuel p nothing
    cases fuel with
    | zero => rfl
    | succ fuel =>
      unfold longestRepeat
      simp only [nothing, Nat.not_lt_zero, if_false, dead]
      rfl
  induction fuel generalizing fuel' p with
  | zero =>
    have nothing : p.spot.left = 0 := by omega
    rw [stops nothing, stops nothing]
  | succ fuel ih =>
    cases fuel' with
    | zero =>
      have nothing : p.spot.left = 0 := by omega
      rw [stops nothing, stops nothing]
    | succ fuel' =>
      unfold longestRepeat
      congr 2
      funext q
      split
      · exact ih (by omega) (by omega)
      · rfl

theorem run_many (repeated : Pattern) (next : Progress → Option ρ) (p : Progress) :
    (many repeated).run next p =
      (repeated.run (fun q =>
        if q.spot.left < p.spot.left then (many repeated).run next q else none) p <|> next p) := by
  have dead := repeated.run_none (ρ := ρ)
  show longestRepeat repeated.run next p.spot.left p = _
  rw [longestRepeat_of_enough dead next (Nat.le_refl _) (Nat.le_succ _)]
  show (repeated.run _ p <|> next p) = _
  congr 2
  funext q
  split
  · exact longestRepeat_of_enough dead next (by omega) (Nat.le_refl _)
  · rfl

theorem exists_matches_of_run {pattern : Pattern} {next : Progress → Option ρ} {p : Progress}
    {r : ρ} (found : pattern.run next p = some r) :
    ∃ q, pattern.Matches p q ∧ next q = some r := by
  induction pattern generalizing next p with
  | nothing => exact ⟨p, .nothing, found⟩
  | one accepts =>
    unfold run at found
    split at found
    · cases found
    · rename_i c rest ahead
      split at found
      · rename_i accepted
        exact ⟨_, .one ahead accepted, found⟩
      · cases found
  | atStart =>
    unfold run at found
    split at found
    · rename_i first
      exact ⟨p, .atStart (Option.isNone_iff_eq_none.mp first), found⟩
    · cases found
  | atEnd =>
    unfold run at found
    split at found
    · rename_i last
      exact ⟨p, .atEnd (List.isEmpty_iff.mp last), found⟩
    · cases found
  | wordEdge =>
    unfold run at found
    split at found
    · rename_i edge
      exact ⟨p, .wordEdge edge, found⟩
    · cases found
  | notAfter accepts =>
    unfold run at found
    split at found
    · cases found
    · rename_i clear
      exact ⟨p, .notAfter (Bool.not_eq_true _ ▸ clear), found⟩
  | seq first second ih ih' =>
    obtain ⟨q, one, found⟩ := ih found
    obtain ⟨r, other, found⟩ := ih' found
    exact ⟨r, .seq one other, found⟩
  | either first second ih ih' =>
    rcases (Option.orElse_eq_some ..).mp found with found | ⟨-, found⟩
    · obtain ⟨q, one, found⟩ := ih found
      exact ⟨q, .first one, found⟩
    · obtain ⟨q, other, found⟩ := ih' found
      exact ⟨q, .second other, found⟩
  | many repeated ih =>
    -- Each try leaves less of the text.
    induction left : p.spot.left using Nat.strongRecOn generalizing p with
    | ind left shorter =>
      rw [run_many] at found
      rcases (Option.orElse_eq_some ..).mp found with found | ⟨-, found⟩
      · obtain ⟨q, once, found⟩ := ih found
        split at found
        · rename_i consumed
          obtain ⟨r, more, found⟩ := shorter _ (left ▸ consumed) found rfl
          exact ⟨r, .again once consumed more, found⟩
        · cases found
      · exact ⟨p, .stop, found⟩
  | group number inner ih =>
    obtain ⟨q, inside, found⟩ := ih found
    exact ⟨_, .group inside, found⟩

theorem Matches.run_isSome {pattern : Pattern} {p q : Progress} (matched : pattern.Matches p q)
    (next : Progress → Option ρ) (goesOn : (next q).isSome) : (pattern.run next p).isSome := by
  induction matched generalizing next with
  | nothing => exact goesOn
  | one ahead accepted =>
    unfold run
    simp only [ahead, accepted, if_true]
    exact goesOn
  | atStart first =>
    unfold run
    simpa [first] using goesOn
  | atEnd last =>
    unfold run
    simpa [last] using goesOn
  | wordEdge edge =>
    unfold run
    simpa [edge] using goesOn
  | notAfter clear =>
    unfold run
    simpa [clear] using goesOn
  | seq _ _ ih ih' => exact ih _ (ih' next goesOn)
  | first _ ih =>
    unfold run
    simp [ih next goesOn]
  | second _ ih =>
    unfold run
    simp [ih next goesOn]
  | stop =>
    rw [run_many]
    simp [goesOn]
  | again _ consumed _ ih ih' =>
    rw [run_many]
    have once := ih (fun q => if q.spot.left < _ then _ else none)
      (by rw [if_pos consumed]; exact ih' next goesOn)
    simp [once]
  | group _ ih => exact ih _ goesOn

theorem run_isSome_iff {pattern : Pattern} {next : Progress → Option ρ} {p : Progress} :
    (pattern.run next p).isSome ↔ ∃ q, pattern.Matches p q ∧ (next q).isSome := by
  constructor
  · intro found
    obtain ⟨r, found⟩ := Option.isSome_iff_exists.mp found
    obtain ⟨q, matched, found⟩ := exists_matches_of_run found
    exact ⟨q, matched, Option.isSome_iff_exists.mpr ⟨r, found⟩⟩
  · rintro ⟨q, matched, goesOn⟩
    exact matched.run_isSome next goesOn

/-- A repetition after which everything is accepted ends where it cannot be tried again. -/
theorem exists_longest_of_run {repeated : Pattern} {next : Progress → ρ} {p : Progress} {r : ρ}
    (found : (many repeated).run (fun q => some (next q)) p = some r) :
    ∃ q, (many repeated).Matches p q ∧ next q = r ∧
      ∀ q', repeated.Matches q q' → q.spot.left ≤ q'.spot.left := by
  induction left : p.spot.left using Nat.strongRecOn generalizing p with
  | ind left shorter =>
    rw [run_many] at found
    rcases (Option.orElse_eq_some ..).mp found with found | ⟨ended, found⟩
    · obtain ⟨q, once, found⟩ := exists_matches_of_run found
      split at found
      · rename_i consumed
        obtain ⟨r, more, made, longest⟩ := shorter _ (left ▸ consumed) found rfl
        exact ⟨r, .again once consumed more, made, longest⟩
      · cases found
    · refine ⟨p, .stop, Option.some.inj found, fun q' once => Nat.le_of_not_lt fun consumed => ?_⟩
      have goesOn := once.run_isSome (fun q =>
        if q.spot.left < p.spot.left then (many repeated).run (fun q => some (next q)) q else none)
        (by rw [if_pos consumed]; exact Matches.stop.run_isSome _ rfl)
      rw [ended] at goesOn
      cases goesOn

end Pattern

def Spot.matched (s : Spot) (q : Progress) : Pattern.Match :=
  ⟨s.rest.take (s.left - q.spot.left), q.kept, q.spot.rest⟩

theorem Pattern.matchAt?_eq (pattern : Pattern) (s : Spot) :
    pattern.matchAt? s = pattern.run (fun q => some (s.matched q)) ⟨s, []⟩ := rfl

end CulpritFinding
