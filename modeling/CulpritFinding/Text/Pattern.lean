import CulpritFinding.Text.Word

namespace CulpritFinding

inductive Pattern
  | nothing
  | one (accepts : Char → Bool)
  | atStart
  | atEnd
  /-- A place with a word character on exactly one of its sides. -/
  | wordEdge
  | notAfter (accepts : Char → Bool)
  | seq (first second : Pattern)
  | either (first second : Pattern)
  | many (repeated : Pattern)
  | group (number : Nat) (inner : Pattern)

namespace Pattern

def text (s : String) : Pattern :=
  s.toList.foldr (fun c p => .seq (.one (· == c)) p) .nothing

def inOrder (ps : List Pattern) : Pattern := ps.foldr .seq .nothing

def oneOrMore (p : Pattern) : Pattern := .seq p (.many p)

def optional (p : Pattern) : Pattern := .either p .nothing

def anyText : List String → Pattern
  | [] => .one fun _ => false
  | [s] => text s
  | s :: rest => .either (text s) (anyText rest)

end Pattern

/-- A place in a text: the character before it and the characters after it, with their number. -/
structure Spot where
  before : Option Char
  rest : List Char
  left : Nat

namespace Spot

def start (cs : List Char) : Spot := ⟨none, cs, cs.length⟩

def isWordEdge (s : Spot) : Bool :=
  s.before.any isWord != s.rest.head?.any isWord

end Spot

/-- How far a match has come, and the texts its groups have kept, latest first. -/
structure Progress where
  spot : Spot
  kept : List (Nat × List Char)

/-- Tries a repetition at most `fuel` times, each of which has to consume something; the longest
continuation that `next` accepts is preferred. -/
def longestRepeat {ρ : Type} (step : (Progress → Option ρ) → Progress → Option ρ)
    (next : Progress → Option ρ) : Nat → Progress → Option ρ
  | 0, p => next p
  | fuel + 1, p =>
    (step (fun q => if q.spot.left < p.spot.left then longestRepeat step next fuel q else none) p)
      <|> next p

namespace Pattern

/-- Matches a pattern at a place and continues with `next`; the first way to match for which
`next` gives an answer counts. -/
def run {ρ : Type} : Pattern → (Progress → Option ρ) → Progress → Option ρ
  | .nothing, next, p => next p
  | .one accepts, next, p =>
    match p.spot.rest with
    | [] => none
    | c :: rest =>
      if accepts c then next { p with spot := ⟨some c, rest, p.spot.left - 1⟩ } else none
  | .atStart, next, p => if p.spot.before.isNone then next p else none
  | .atEnd, next, p => if p.spot.rest.isEmpty then next p else none
  | .wordEdge, next, p => if p.spot.isWordEdge then next p else none
  | .notAfter accepts, next, p => if p.spot.before.any accepts then none else next p
  | .seq first second, next, p => first.run (second.run next) p
  | .either first second, next, p => first.run next p <|> second.run next p
  | .many repeated, next, p => longestRepeat repeated.run next p.spot.left p
  | .group number inner, next, p =>
    inner.run (fun q =>
      next { q with kept := (number, p.spot.rest.take (p.spot.left - q.spot.left)) :: q.kept }) p

structure Match where
  text : List Char
  groups : List (Nat × List Char)
  after : List Char

def Match.group? (m : Match) (number : Nat) : Option (List Char) :=
  (m.groups.find? fun g => g.1 = number).map (·.2)

def matchAt? (p : Pattern) (s : Spot) : Option Match :=
  p.run (fun q => some ⟨s.rest.take (s.left - q.spot.left), q.kept, q.spot.rest⟩) ⟨s, []⟩

/-- The matches at a place and after it, from left to right; the next `skip` places belong to the
match before. -/
def matchesFrom (p : Pattern) : Option Char → List Char → (left skip : Nat) → List Match
  | before, [], left, 0 => (p.matchAt? ⟨before, [], left⟩).toList
  | _, [], _, _ + 1 => []
  | _, c :: cs, left, skip + 1 => p.matchesFrom (some c) cs (left - 1) skip
  | before, c :: cs, left, 0 =>
    match p.matchAt? ⟨before, c :: cs, left⟩ with
    | none => p.matchesFrom (some c) cs (left - 1) 0
    | some m => m :: p.matchesFrom (some c) cs (left - 1) (m.text.length - 1)

def findAll (p : Pattern) (cs : List Char) : List Match := p.matchesFrom none cs cs.length 0

def findFrom? (p : Pattern) : Option Char → List Char → (left : Nat) → Option Match
  | before, [], left => p.matchAt? ⟨before, [], left⟩
  | before, c :: cs, left =>
    p.matchAt? ⟨before, c :: cs, left⟩ <|> p.findFrom? (some c) cs (left - 1)

def find? (p : Pattern) (cs : List Char) : Option Match := p.findFrom? none cs cs.length

def replaceFrom (p : Pattern) (replacement : Match → List Char) :
    Option Char → List Char → (left : Nat) → List Char
  | before, [], left =>
    match p.matchAt? ⟨before, [], left⟩ with
    | none => []
    | some m => replacement m
  | before, c :: cs, left =>
    match p.matchAt? ⟨before, c :: cs, left⟩ with
    | none => c :: p.replaceFrom replacement (some c) cs (left - 1)
    | some m => replacement m ++ m.after

def replaceFirst (p : Pattern) (replacement : Match → List Char) (cs : List Char) : List Char :=
  p.replaceFrom replacement none cs cs.length

def removeFirst (p : Pattern) (cs : List Char) : List Char := p.replaceFirst (fun _ => []) cs

end Pattern

end CulpritFinding
