namespace CulpritFinding

structure Instant where
  /-- The whole seconds from 1970-01-01T00:00:00Z, counted as if every day had as many of them. -/
  second : Int
  /-- The nanoseconds after that second. A second or more of them lie in a leap second. -/
  nanos : Nat
  deriving DecidableEq, Repr

structure Span where
  nanos : Int
  deriving DecidableEq, Repr

def nanosPerSecond : Int := 1000000000

def secondsPerDay : Int := 86400

namespace Span

def maxSeconds : Int := 9223372036854775

def ofSeconds? (seconds : Int) : Option Span :=
  if -maxSeconds ≤ seconds ∧ seconds ≤ maxSeconds then some ⟨seconds * nanosPerSecond⟩ else none

def ofDays? (days : Int) : Option Span := ofSeconds? (days * secondsPerDay)

/-- The whole seconds of a span; a broken second is dropped, in a negative span too. -/
def wholeSeconds (s : Span) : Int := s.nanos.tdiv nanosPerSecond

end Span

namespace Instant

def count (t : Instant) : Int := t.second * nanosPerSecond + t.nanos

def ofCount (nanos : Int) : Instant := ⟨nanos / nanosPerSecond, (nanos % nanosPerSecond).toNat⟩

def first : Instant := ⟨-8334601228800, 0⟩

def last : Instant := ⟨8210266876799, 999999999⟩

def isInRange (t : Instant) : Bool := first.second ≤ t.second && t.second ≤ last.second

def isLeap (t : Instant) : Bool := nanosPerSecond ≤ t.nanos

/-- The second of the day that an instant lies in; a leap second belongs to the second before it. -/
def secondOfDay (t : Instant) : Int := t.second % secondsPerDay

/-- What the leap second of an instant adds to the way from its time of day to that of another: a
second if the other time of day comes after it, and nothing if it comes before or there is none. -/
def leapBefore (start t : Instant) : Int :=
  if start.isLeap && start.secondOfDay < t.secondOfDay then nanosPerSecond else 0

/-- The span from one instant to another: days of equal length from date to date, and from time of
day to time of day one second more for each leap second that the two name and that lies between. -/
def since (t start : Instant) : Span :=
  ⟨t.count - start.count + start.leapBefore t - t.leapBefore start⟩

/-- The instant a span earlier, or later for a negative span. The leap second that an instant lies
in is passed through like any other second; no other leap second is known. -/
def minus (t : Instant) (s : Span) : Instant :=
  let moved := t.nanos - s.nanos
  if t.isLeap && nanosPerSecond ≤ moved then
    if moved < 2 * nanosPerSecond then ⟨t.second, moved.toNat⟩
    else ofCount (t.count - nanosPerSecond - s.nanos)
  else ofCount (t.count - s.nanos)

def isBefore (t t' : Instant) : Bool :=
  t.second < t'.second || (t.second = t'.second && t.nanos < t'.nanos)

def latest (t t' : Instant) : Instant := if t.isBefore t' then t' else t

end Instant

end CulpritFinding
