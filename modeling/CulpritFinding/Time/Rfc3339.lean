import CulpritFinding.Text.Blank
import CulpritFinding.Text.Number
import CulpritFinding.Time.Date
import CulpritFinding.Time.Instant

namespace CulpritFinding

namespace Date

def yearText (year : Int) : List Char :=
  if 0 ≤ year ∧ year ≤ 9999 then fixedDigits 4 year.toNat
  else (if year < 0 then '-' else '+') :: paddedDigits 4 year.natAbs

def text (d : Date) : List Char :=
  yearText d.year ++ '-' :: fixedDigits 2 d.month ++ '-' :: fixedDigits 2 d.day

end Date

namespace Instant

def decimalsText (nanos : Nat) : List Char :=
  if nanos = 0 then []
  else if nanos % 1000000 = 0 then '.' :: fixedDigits 3 (nanos / 1000000)
  else if nanos % 1000 = 0 then '.' :: fixedDigits 6 (nanos / 1000)
  else '.' :: fixedDigits 9 nanos

def clockText (secondOfDay leap : Nat) : List Char :=
  fixedDigits 2 (secondOfDay / 3600) ++ ':' :: fixedDigits 2 (secondOfDay / 60 % 60)
    ++ ':' :: fixedDigits 2 (secondOfDay % 60 + leap)

def chars (t : Instant) : List Char :=
  (Date.ofDayNumber (t.second / secondsPerDay)).text ++ 'T' ::
    clockText (t.second % secondsPerDay).toNat (t.nanos / 1000000000) ++
    decimalsText (t.nanos % 1000000000) ++ ['Z']

def text (t : Instant) : String := String.ofList t.chars

def readMark? (mark : Char) (cs : List Char) : Option (List Char) :=
  match trimStart cs with
  | c :: rest => if c = mark then some rest else none
  | [] => none

def readPair? (cs : List Char) : Option (Nat × List Char) := readDigits? 2 (trimStart cs)

def readYear? (cs : List Char) : Option (Int × List Char) :=
  match trimStart cs with
  | '-' :: rest => (readDigits? rest.length rest).map fun r => (-(r.1 : Int), r.2)
  | '+' :: rest => (readDigits? rest.length rest).map fun r => ((r.1 : Int), r.2)
  | rest => (readDigits? 4 rest).map fun r => ((r.1 : Int), r.2)

def readDate? (cs : List Char) : Option (Date × List Char) := do
  let (year, cs) ← readYear? cs
  let (month, cs) ← readPair? (← readMark? '-' cs)
  let (day, cs) ← readPair? (← readMark? '-' cs)
  let date : Date := ⟨year, month, day⟩
  if date.isValid then some (date, cs) else none

/-- Reads a time of day as the seconds since midnight and the nanoseconds by which they fall short:
second 60 is a leap second after second 59. -/
def readClock? (cs : List Char) : Option (Nat × Nat × List Char) := do
  let (hour, cs) ← readPair? cs
  let (minute, cs) ← readPair? (← readMark? ':' cs)
  let (second, cs) ← readPair? (← readMark? ':' cs)
  let start := hour * 3600 + minute * 60
  if 23 < hour ∨ 59 < minute ∨ 60 < second then none
  else if second = 60 then some (start + 59, 1000000000, cs)
  else some (start + second, 0, cs)

def readDecimals? (cs : List Char) : Option (Nat × List Char) :=
  match cs with
  | '.' :: rest => do
    let ds := rest.takeWhile isAsciiDigit
    if ds.isEmpty then none
    else some (digitsValue ((ds ++ List.replicate 9 '0').take 9), rest.drop ds.length)
  | _ => some (0, cs)

def readTwoDigits? : List Char → Option (Nat × List Char)
  | a :: b :: rest =>
    if isAsciiDigit a && isAsciiDigit b then some (digitsValue [a, b], rest) else none
  | _ => none

def readOffset? (cs : List Char) : Option (Int × List Char) :=
  match cs with
  | 'Z' :: rest | 'z' :: rest => some (0, rest)
  | u :: t :: c :: rest =>
    if (u = 'U' ∨ u = 'u') ∧ (t = 'T' ∨ t = 't') ∧ (c = 'C' ∨ c = 'c') then some (0, rest)
    else do
      let sign : Int ←
        if u = '+' then some 1 else if u = '-' ∨ u = '\u2212' then some (-1) else none
      let (hours, cs) ← readTwoDigits? (t :: c :: rest)
      let (minutes, cs) ← readTwoDigits? (cs.dropWhile fun c => c = ':' || isBlank c)
      if hours ≤ 23 ∧ minutes ≤ 59 then some (sign * (hours * 3600 + minutes * 60), cs) else none
  | _ => none

def parseChars? (cs : List Char) : Option Instant := do
  let (date, cs) ← readDate? cs
  let cs ← match cs with
    | c :: rest => if c = 'T' ∨ c = 't' ∨ c = ' ' then some rest else none
    | [] => none
  let (secondOfDay, leap, cs) ← readClock? cs
  let (nanos, cs) ← readDecimals? cs
  let (offset, cs) ← readOffset? (trimStart cs)
  let instant : Instant :=
    ⟨date.toDayNumber * secondsPerDay + secondOfDay - offset, leap + nanos⟩
  if cs.all isBlank ∧ instant.isInRange then some instant else none

def parse? (s : String) : Option Instant := parseChars? s.toList

end Instant

end CulpritFinding
