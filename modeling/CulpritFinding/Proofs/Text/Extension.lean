import CulpritFinding.Proofs.Text.Matching

namespace CulpritFinding

namespace Pattern

/-- Whether a pattern looks at nothing but characters and the edges of words. -/
def floats : Pattern → Bool
  | .nothing | .one _ | .wordEdge => true
  | .atStart | .atEnd | .notAfter _ => false
  | .seq first second | .either first second => first.floats && second.floats
  | .many repeated => repeated.floats
  | .group _ inner => inner.floats

def shuns (c : Char) : Pattern → Bool
  | .one accepts => !accepts c
  | .nothing | .wordEdge | .atStart | .atEnd | .notAfter _ => true
  | .seq first second | .either first second => first.shuns c && second.shuns c
  | .many repeated => repeated.shuns c
  | .group _ inner => inner.shuns c

def consumes : Pattern → Bool
  | .one _ => true
  | .nothing | .wordEdge | .atStart | .atEnd | .notAfter _ | .many _ => false
  | .seq first second => first.consumes || second.consumes
  | .either first second => first.consumes && second.consumes
  | .group _ inner => inner.consumes

end Pattern

def Progress.Counted (p : Progress) : Prop := p.spot.left = p.spot.rest.length

namespace Pattern

theorem Matches.counted {pattern : Pattern} {p q : Progress} (matched : pattern.Matches p q)
    (counted : p.Counted) : q.Counted ∧ q.spot.left ≤ p.spot.left := by
  induction matched with
  | nothing | atStart | atEnd | wordEdge | notAfter | stop => exact ⟨counted, Nat.le_refl _⟩
  | one ahead =>
    unfold Progress.Counted at counted ⊢
    rw [ahead, List.length_cons] at counted
    exact ⟨by simp only; omega, Nat.sub_le ..⟩
  | seq _ _ ih ih' =>
    obtain ⟨counted, less⟩ := ih counted
    exact ⟨(ih' counted).1, Nat.le_trans (ih' counted).2 less⟩
  | first _ ih | second _ ih | group _ ih => exact ih counted
  | again _ _ _ ih ih' =>
    obtain ⟨counted, less⟩ := ih counted
    exact ⟨(ih' counted).1, Nat.le_trans (ih' counted).2 less⟩

theorem Matches.left_lt {pattern : Pattern} {p q : Progress} (matched : pattern.Matches p q)
    (counted : p.Counted) (consumes : pattern.consumes = true) : q.spot.left < p.spot.left := by
  induction matched with
  | nothing | atStart | atEnd | wordEdge | notAfter | stop | again => cases consumes
  | one ahead =>
    unfold Progress.Counted at counted
    rw [ahead, List.length_cons] at counted
    simp only
    omega
  | seq one other ih ih' =>
    obtain ⟨counted', less⟩ := one.counted counted
    obtain ⟨-, less'⟩ := other.counted counted'
    rcases Bool.or_eq_true_iff.mp consumes with first | second
    · exact Nat.lt_of_le_of_lt less' (ih counted first)
    · exact Nat.lt_of_lt_of_le (ih' counted' second) less
  | first _ ih => exact ih counted (Bool.and_eq_true_iff.mp consumes).1
  | second _ ih => exact ih counted (Bool.and_eq_true_iff.mp consumes).2
  | group _ ih => exact ih counted consumes

variable {ρ ρ' : Type}

theorem run_eq_none {pattern : Pattern} {next : Progress → Option ρ} {p : Progress}
    (counted : p.Counted)
    (dead : ∀ q : Progress, q.Counted → q.spot.left ≤ p.spot.left → next q = none) :
    pattern.run next p = none := by
  cases found : pattern.run next p with
  | none => rfl
  | some r =>
    obtain ⟨q, matched, found⟩ := exists_matches_of_run found
    obtain ⟨counted', less⟩ := matched.counted counted
    cases (dead q counted' less).symm.trans found

end Pattern

/-- Two matches at the same place, of which the first is in a text that goes on with `behind`. -/
structure Progress.Extends (behind : List Char) (p q : Progress) : Prop where
  edge : p.spot.before.any isWord = q.spot.before.any isWord
  rest : p.spot.rest = q.spot.rest ++ behind
  counted : p.Counted
  counted' : q.Counted
  kept : p.kept = q.kept

theorem Progress.Extends.left {behind : List Char} {p q : Progress} (further : p.Extends behind q) :
    p.spot.left = q.spot.left + behind.length := by
  rw [further.counted, further.rest, List.length_append, further.counted']

theorem Progress.Extends.isWordEdge {behind : List Char} (edge : behind.head?.any isWord = false)
    {p q : Progress} (further : p.Extends behind q) : p.spot.isWordEdge = q.spot.isWordEdge := by
  unfold Spot.isWordEdge
  rw [further.edge, further.rest]
  cases q.spot.rest with
  | nil =>
    rw [List.nil_append, edge]
    rfl
  | cons c rest => rfl

theorem Progress.Extends.taken {behind : List Char} {p q p' q' : Progress}
    (start : p.Extends behind q) (further : p'.Extends behind q') :
    p.spot.rest.take (p.spot.left - p'.spot.left) =
      q.spot.rest.take (q.spot.left - q'.spot.left) := by
  have size : p.spot.left - p'.spot.left = q.spot.left - q'.spot.left := by
    rw [start.left, further.left]
    omega
  have within : q.spot.left - q'.spot.left ≤ q.spot.rest.length := by
    rw [start.counted']
    omega
  rw [size, start.rest, List.take_append_of_le_length within]

theorem Option.Rel.orElse {α β : Type} {R : α → β → Prop} {a a' : Option α} {b b' : Option β}
    (first : Option.Rel R a b) (second : Option.Rel R a' b') :
    Option.Rel R (a <|> a') (b <|> b') := by
  cases first with
  | some related => exact .some related
  | none => exact second

namespace Pattern

section

variable {ρ ρ' : Type} {R : ρ → ρ' → Prop} {behind : List Char}

/-- A pattern does not go on into what was added to a text, if either it does not accept the first
character of that, or nothing can follow beyond it. -/
def StopsAt (behind : List Char) (pattern : Pattern) (next : Progress → Option ρ) : Prop :=
  (∀ c ∈ behind.head?, pattern.shuns c = true) ∨
    ∀ p : Progress, p.Counted → p.spot.left < behind.length → next p = none

section

variable {first second : Pattern} {next : Progress → Option ρ}

theorem StopsAt.left (stops : (Pattern.either first second).StopsAt behind next) :
    first.StopsAt behind next :=
  stops.imp_left fun shuns c added => (Bool.and_eq_true_iff.mp (shuns c added)).1

theorem StopsAt.right (stops : (Pattern.either first second).StopsAt behind next) :
    second.StopsAt behind next :=
  stops.imp_left fun shuns c added => (Bool.and_eq_true_iff.mp (shuns c added)).2

theorem StopsAt.after (stops : (Pattern.seq first second).StopsAt behind next) :
    second.StopsAt behind next :=
  stops.imp_left fun shuns c added => (Bool.and_eq_true_iff.mp (shuns c added)).2

theorem StopsAt.before (stops : (Pattern.seq first second).StopsAt behind next) :
    first.StopsAt behind (second.run next) := by
  rcases stops with shuns | dead
  · exact .inl fun c added => (Bool.and_eq_true_iff.mp (shuns c added)).1
  · exact .inr fun p counted within => run_eq_none counted fun q counted less =>
      dead q counted (Nat.lt_of_le_of_lt less within)

end

variable {next : Progress → Option ρ} {next' : Progress → Option ρ'}

theorem one_extends {accepts : Char → Bool}
    (same : ∀ p q, Progress.Extends behind p q → Option.Rel R (next p) (next' q))
    (stops : (Pattern.one accepts).StopsAt behind next) {p q : Progress}
    (further : p.Extends behind q) :
    Option.Rel R ((one accepts).run next p) ((one accepts).run next' q) := by
  have counted := further.counted
  have counted' := further.counted'
  unfold Progress.Counted at counted counted'
  unfold Pattern.run
  cases ahead : q.spot.rest with
  | cons c rest =>
    have ahead' : p.spot.rest = c :: (rest ++ behind) := by rw [further.rest, ahead]; rfl
    rw [ahead] at counted'
    rw [ahead'] at counted
    simp only [ahead']
    split
    · refine same _ _ ⟨rfl, rfl, ?_, ?_, further.kept⟩ <;> unfold Progress.Counted <;>
        simp only [List.length_cons] at counted counted' ⊢ <;> omega
    · exact .none
  | nil =>
    have ahead' : p.spot.rest = behind := by rw [further.rest, ahead]; rfl
    rw [ahead'] at counted
    cases behind with
    | nil =>
      simp only [ahead']
      exact .none
    | cons c more =>
      rw [List.length_cons] at counted
      simp only [ahead']
      split
      · rename_i accepted
        rcases stops with shuns | dead
        · have refused : (!accepts c) = true := shuns c rfl
          rw [accepted] at refused
          cases refused
        · rw [dead]
          · exact .none
          · unfold Progress.Counted
            simp only
            omega
          · simp only [List.length_cons]
            omega
      · exact .none

theorem many_extends {repeated : Pattern}
    (once : ∀ {next : Progress → Option ρ} {next' : Progress → Option ρ'},
      (∀ p q, Progress.Extends behind p q → Option.Rel R (next p) (next' q)) →
      repeated.StopsAt behind next → ∀ {p q : Progress}, p.Extends behind q →
      Option.Rel R (repeated.run next p) (repeated.run next' q))
    (same : ∀ p q, Progress.Extends behind p q → Option.Rel R (next p) (next' q))
    (stops : repeated.many.StopsAt behind next) {p q : Progress} (further : p.Extends behind q) :
    Option.Rel R (repeated.many.run next p) (repeated.many.run next' q) := by
  induction left : q.spot.left using Nat.strongRecOn generalizing p q with
  | ind left shorter =>
    rw [run_many, run_many]
    refine Option.Rel.orElse (once (fun p' q' further' => ?_) ?_ further) (same p q further)
    · have less : p'.spot.left < p.spot.left ↔ q'.spot.left < q.spot.left := by
        rw [further.left, further'.left]
        omega
      simp only [less]
      split
      · rename_i consumed
        exact shorter _ (left ▸ consumed) further' rfl
      · exact .none
    · refine stops.imp id fun dead p' counted within => ?_
      dsimp only
      split
      · exact run_eq_none counted fun q counted less =>
          dead q counted (Nat.lt_of_le_of_lt less within)
      · rfl

variable (behind) in
/-- A pattern without anchors that does not go on into what was added to a text finds there what it
finds in the text. -/
theorem run_extends (edge : behind.head?.any isWord = false) {pattern : Pattern}
    (floats : pattern.floats = true)
    (same : ∀ p q, Progress.Extends behind p q → Option.Rel R (next p) (next' q))
    (stops : pattern.StopsAt behind next) {p q : Progress} (further : p.Extends behind q) :
    Option.Rel R (pattern.run next p) (pattern.run next' q) := by
  induction pattern generalizing next next' p q with
  | nothing => exact same p q further
  | one accepts => exact one_extends same stops further
  | wordEdge =>
    unfold Pattern.run
    rw [further.isWordEdge edge]
    split
    · exact same p q further
    · exact .none
  | atStart | atEnd | notAfter => cases floats
  | seq first second ih ih' =>
    obtain ⟨floats, floats'⟩ := Bool.and_eq_true_iff.mp floats
    exact ih floats (fun p q further => ih' floats' same stops.after further) stops.before further
  | either first second ih ih' =>
    obtain ⟨floats, floats'⟩ := Bool.and_eq_true_iff.mp floats
    exact Option.Rel.orElse (ih floats same stops.left further)
      (ih' floats' same stops.right further)
  | many repeated ih =>
    exact many_extends (fun same stops => ih floats same stops) same stops further
  | group number inner ih =>
    refine ih floats (fun p' q' further' => ?_) ?_ further
    · refine same _ _ ⟨further'.edge, further'.rest, further'.counted, further'.counted', ?_⟩
      simp only [further.taken further', further'.kept]
    · exact stops.imp id fun dead p counted within => dead _ counted within

end

end Pattern

end CulpritFinding
