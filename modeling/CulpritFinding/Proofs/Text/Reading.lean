import CulpritFinding.Proofs.Text.Extension

namespace CulpritFinding

namespace Pattern

def plain : Pattern → Bool
  | .nothing | .one _ => true
  | .atStart | .atEnd | .wordEdge | .notAfter _ | .group .. => false
  | .seq first second | .either first second => first.plain && second.plain
  | .many repeated => repeated.plain

/-- Whether a pattern without anchors and groups matches a whole text. -/
def Reads : Pattern → List Char → Prop
  | .nothing, cs => cs = []
  | .one accepts, cs => ∃ c, accepts c = true ∧ cs = [c]
  | .seq first second, cs =>
    ∃ front back, cs = front ++ back ∧ first.Reads front ∧ second.Reads back
  | .either first second, cs => first.Reads cs ∨ second.Reads cs
  | .many repeated, cs =>
    ∃ pieces : List (List Char),
      cs = pieces.flatten ∧ ∀ piece ∈ pieces, piece ≠ [] ∧ repeated.Reads piece
  | .atStart, _ | .atEnd, _ | .wordEdge, _ | .notAfter _, _ | .group .., _ => False

end Pattern

structure Progress.Past (read : List Char) (p q : Progress) : Prop where
  rest : p.spot.rest = read ++ q.spot.rest
  counted : q.Counted
  kept : q.kept = p.kept

theorem Progress.Past.taken {read : List Char} {p q : Progress} (past : p.Past read q)
    (counted : p.Counted) : p.spot.rest.take (p.spot.left - q.spot.left) = read := by
  rw [counted, past.counted, past.rest, List.length_append, Nat.add_sub_cancel, List.take_left]

namespace Pattern

theorem Matches.reads {pattern : Pattern} {p q : Progress} (matched : pattern.Matches p q)
    (plain : pattern.plain = true) (counted : p.Counted) :
    ∃ read, pattern.Reads read ∧ p.Past read q := by
  induction matched with
  | nothing => exact ⟨[], rfl, rfl, counted, rfl⟩
  | one ahead accepted =>
    have counted' := (Matches.one ahead accepted).counted counted
    exact ⟨[_], ⟨_, accepted, rfl⟩, ahead, counted'.1, rfl⟩
  | atStart | atEnd | wordEdge | notAfter | group => cases plain
  | seq one _ ih ih' =>
    obtain ⟨plain, plain'⟩ := Bool.and_eq_true_iff.mp plain
    obtain ⟨front, reads, past⟩ := ih plain counted
    obtain ⟨back, reads', past'⟩ := ih' plain' past.counted
    refine ⟨front ++ back, ⟨front, back, rfl, reads, reads'⟩, ?_, past'.counted, ?_⟩
    · rw [past.rest, past'.rest, List.append_assoc]
    · rw [past'.kept, past.kept]
  | first _ ih =>
    obtain ⟨read, reads, past⟩ := ih (Bool.and_eq_true_iff.mp plain).1 counted
    exact ⟨read, .inl reads, past⟩
  | second _ ih =>
    obtain ⟨read, reads, past⟩ := ih (Bool.and_eq_true_iff.mp plain).2 counted
    exact ⟨read, .inr reads, past⟩
  | stop => exact ⟨[], ⟨[], rfl, by simp⟩, rfl, counted, rfl⟩
  | again _ consumed _ ih ih' =>
    obtain ⟨piece, reads, past⟩ := ih plain counted
    obtain ⟨back, ⟨pieces, rfl, all⟩, past'⟩ := ih' plain past.counted
    refine ⟨piece ++ pieces.flatten, ⟨piece :: pieces, rfl, ?_⟩, ?_, past'.counted, ?_⟩
    · refine List.forall_mem_cons.mpr ⟨⟨?_, reads⟩, all⟩
      rintro rfl
      rw [counted, past.counted, past.rest] at consumed
      exact Nat.lt_irrefl _ consumed
    · rw [past.rest, past'.rest, List.append_assoc]
    · rw [past'.kept, past.kept]

theorem Reads.exists_matches {pattern : Pattern} {read rest : List Char}
    (reads : pattern.Reads read) (p : Progress) (counted : p.Counted)
    (ahead : p.spot.rest = read ++ rest) :
    ∃ q, pattern.Matches p q ∧ q.spot.rest = rest ∧ q.Counted := by
  induction pattern generalizing read rest p with
  | nothing =>
    cases reads
    exact ⟨p, .nothing, ahead, counted⟩
  | one accepts =>
    obtain ⟨c, accepted, rfl⟩ := reads
    have once : (one accepts).Matches p _ := .one ahead accepted
    exact ⟨_, once, rfl, (once.counted counted).1⟩
  | atStart | atEnd | wordEdge | notAfter | group => cases reads
  | seq first second ih ih' =>
    obtain ⟨front, back, rfl, reads, reads'⟩ := reads
    rw [List.append_assoc] at ahead
    obtain ⟨q, one, ahead', counted'⟩ := ih reads p counted ahead
    obtain ⟨r, other, ahead'', counted''⟩ := ih' reads' q counted' ahead'
    exact ⟨r, .seq one other, ahead'', counted''⟩
  | either first second ih ih' =>
    rcases reads with reads | reads
    · obtain ⟨q, one, past⟩ := ih reads p counted ahead
      exact ⟨q, .first one, past⟩
    · obtain ⟨q, other, past⟩ := ih' reads p counted ahead
      exact ⟨q, .second other, past⟩
  | many repeated ih =>
    obtain ⟨pieces, rfl, all⟩ := reads
    induction pieces generalizing p with
    | nil => exact ⟨p, .stop, ahead, counted⟩
    | cons piece pieces more =>
      obtain ⟨⟨something, reads⟩, all⟩ := List.forall_mem_cons.mp all
      rw [List.flatten_cons, List.append_assoc] at ahead
      obtain ⟨q, once, ahead', counted'⟩ := ih reads p counted ahead
      obtain ⟨r, others, past⟩ := more q counted' all ahead'
      refine ⟨r, .again once ?_ others, past⟩
      rw [counted, counted', ahead, ahead', List.length_append, List.length_append]
      have := List.length_pos_iff.mpr something
      rw [List.length_append]
      omega

theorem Reads.not_mem {pattern : Pattern} {c : Char} (shuns : pattern.shuns c = true)
    {cs : List Char} (reads : pattern.Reads cs) : c ∉ cs := by
  induction pattern generalizing cs with
  | nothing =>
    cases reads
    exact List.not_mem_nil
  | one accepts =>
    obtain ⟨d, accepted, rfl⟩ := reads
    rw [List.mem_singleton]
    rintro rfl
    have refused : (!accepts c) = true := shuns
    rw [accepted] at refused
    cases refused
  | atStart | atEnd | wordEdge | notAfter | group => cases reads
  | seq first second ih ih' =>
    obtain ⟨front, back, rfl, reads, reads'⟩ := reads
    obtain ⟨shuns, shuns'⟩ := Bool.and_eq_true_iff.mp shuns
    exact fun member => (List.mem_append.mp member).elim (ih shuns reads) (ih' shuns' reads')
  | either first second ih ih' =>
    obtain ⟨shuns, shuns'⟩ := Bool.and_eq_true_iff.mp shuns
    exact reads.elim (ih shuns) (ih' shuns')
  | many repeated ih =>
    obtain ⟨pieces, rfl, all⟩ := reads
    intro member
    obtain ⟨piece, listed, member⟩ := List.mem_flatten.mp member
    exact ih shuns (all piece listed).2 member

variable {accepts : Char → Bool} {cs : List Char}

theorem reads_many_one : (many (.one accepts)).Reads cs ↔ ∀ c ∈ cs, accepts c = true := by
  constructor
  · rintro ⟨pieces, rfl, all⟩ c member
    obtain ⟨piece, listed, member⟩ := List.mem_flatten.mp member
    obtain ⟨-, d, accepted, rfl⟩ := all piece listed
    cases List.mem_singleton.mp member
    exact accepted
  · intro all
    have whole : cs = (cs.map fun c => [c]).flatten := by
      rw [← List.flatMap_def, List.flatMap_singleton']
    refine ⟨_, whole, fun piece listed => ?_⟩
    obtain ⟨c, member, rfl⟩ := List.mem_map.mp listed
    exact ⟨List.cons_ne_nil c [], c, all c member, rfl⟩

theorem reads_oneOrMore_one :
    (oneOrMore (.one accepts)).Reads cs ↔ cs ≠ [] ∧ ∀ c ∈ cs, accepts c = true := by
  constructor
  · rintro ⟨_, back, rfl, ⟨c, accepted, rfl⟩, reads⟩
    exact ⟨List.cons_ne_nil c back, List.forall_mem_cons.mpr ⟨accepted, reads_many_one.mp reads⟩⟩
  · rintro ⟨something, all⟩
    obtain ⟨c, back, rfl⟩ := List.exists_cons_of_ne_nil something
    obtain ⟨accepted, all⟩ := List.forall_mem_cons.mp all
    exact ⟨[c], back, rfl, ⟨c, accepted, rfl⟩, reads_many_one.mpr all⟩

theorem plain_text (s : String) : (text s).plain = true := by
  unfold text
  induction s.toList with
  | nil => rfl
  | cons c cs ih => exact ih

theorem reads_text {s : String} : (text s).Reads cs ↔ cs = s.toList := by
  unfold text
  induction s.toList generalizing cs with
  | nil => exact Iff.rfl
  | cons c rest ih =>
    constructor
    · rintro ⟨_, back, rfl, ⟨d, same, rfl⟩, reads⟩
      rw [ih.mp reads, eq_of_beq same]
      rfl
    · rintro rfl
      exact ⟨[c], rest, rfl, ⟨c, beq_self_eq_true c, rfl⟩, ih.mpr rfl⟩

def toEnd (ps : List Pattern) : Pattern := inOrder (ps ++ [.atEnd])

theorem Matches.rest_of_toEnd {ps : List Pattern} {p q : Progress}
    (matched : (toEnd ps).Matches p q) : q.spot.rest = [] := by
  induction ps generalizing p with
  | nil =>
    cases matched with
    | seq last none_ =>
      cases last with
      | atEnd last =>
        cases none_
        exact last
  | cons first ps ih =>
    cases matched with
    | seq _ others => exact ih others

theorem matches_toEnd_iff {ps : List Pattern} (plain : ∀ pattern ∈ ps, pattern.plain = true)
    {p : Progress} (counted : p.Counted) :
    (∃ q, (toEnd ps).Matches p q) ↔ (inOrder ps).Reads p.spot.rest := by
  induction ps generalizing p with
  | nil =>
    constructor
    · rintro ⟨q, matched⟩
      cases matched with
      | seq last _ =>
        cases last with
        | atEnd last => exact last
    · intro last
      exact ⟨p, .seq (.atEnd last) .nothing⟩
  | cons first ps ih =>
    obtain ⟨plain, plain'⟩ := List.forall_mem_cons.mp plain
    constructor
    · rintro ⟨r, matched⟩
      cases matched with
      | seq one others =>
        obtain ⟨read, reads, past⟩ := one.reads plain counted
        exact ⟨read, _, past.rest, reads, (ih plain' past.counted).mp ⟨r, others⟩⟩
    · rintro ⟨front, back, whole, reads, reads'⟩
      obtain ⟨q, one, ahead, counted'⟩ := reads.exists_matches p counted whole
      obtain ⟨r, others⟩ := (ih plain' counted').mpr (ahead ▸ reads')
      exact ⟨r, .seq one others⟩

end Pattern

end CulpritFinding
