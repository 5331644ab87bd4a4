import CulpritFinding.Json.Value
import CulpritFinding.Text.Hex
import CulpritFinding.Text.Number

namespace CulpritFinding

namespace Json

def isGap (c : Char) : Bool := c = ' ' || c = '\t' || c = '\n' || c = '\r'

def skipGap (cs : List Char) : List Char := cs.dropWhile isGap

def escapeLetter? (c : Char) : Option Char :=
  match c with
  | '"' => some '"'
  | '\\' => some '\\'
  | '/' => some '/'
  | 'b' => some '\x08'
  | 'f' => some '\x0c'
  | 'n' => some '\n'
  | 'r' => some '\r'
  | 't' => some '\t'
  | _ => none

def isHighUnit (n : Nat) : Bool := 0xD800 ≤ n && n < 0xDC00

def isLowUnit (n : Nat) : Bool := 0xDC00 ≤ n && n < 0xE000

def isHalf (n : Nat) : Bool := isHighUnit n || isLowUnit n

def pairValue (high low : Nat) : Nat := 0x10000 + (high - 0xD800) * 0x400 + (low - 0xDC00)

/-- The characters of a text that is given by code points and code units: characters beyond 16 bits
may be written as pairs of code units, but half a pair is no character. -/
def joinPairs? : List Nat → Option (List Char)
  | [] => some []
  | [n] => if isHalf n then none else some [Char.ofNat n]
  | n :: n' :: rest =>
    if isHighUnit n && isLowUnit n' then
      (joinPairs? rest).map (Char.ofNat (pairValue n n') :: ·)
    else if isHalf n then none
    else (joinPairs? (n' :: rest)).map (Char.ofNat n :: ·)

def readUnits? : List Char → Option (List Nat × List Char)
  | [] => none
  | '"' :: rest => some ([], rest)
  | '\\' :: 'u' :: a :: b :: c :: d :: rest => do
    let unit ← hexNumber? [a, b, c, d]
    let (units, after) ← readUnits? rest
    return (unit :: units, after)
  | '\\' :: letter :: rest => do
    let c ← escapeLetter? letter
    let (units, after) ← readUnits? rest
    return (c.toNat :: units, after)
  | c :: rest =>
    if c = '\\' ∨ c.toNat < 32 then none
    else do
      let (units, after) ← readUnits? rest
      return (c.toNat :: units, after)

/-- Reads the rest of a text after its opening quote. A text with half a pair is read like any
other, but there is no string for it. -/
def readText? (cs : List Char) : Option (Option String × List Char) :=
  (readUnits? cs).map fun r => ((joinPairs? r.1).map String.ofList, r.2)

def readExponent? (cs : List Char) : Option (Option Int × List Char) :=
  match cs with
  | e :: rest =>
    if e = 'e' ∨ e = 'E' then
      let (negative, rest) := match rest with
        | '-' :: rest => (true, rest)
        | '+' :: rest => (false, rest)
        | _ => (false, rest)
      let ds := rest.takeWhile isAsciiDigit
      let n : Int := digitsValue ds
      if ds.isEmpty then none
      else some (some (if negative then -n else n), rest.drop ds.length)
    else some (none, cs)
  | [] => some (none, [])

def readSign (cs : List Char) : Bool × List Char :=
  match cs with
  | '-' :: rest => (true, rest)
  | _ => (false, cs)

def readFraction? (cs : List Char) : Option (List Char × List Char) :=
  match cs with
  | '.' :: rest =>
    let ds := rest.takeWhile isAsciiDigit
    if ds.isEmpty then none else some (ds, rest.drop ds.length)
  | _ => some ([], cs)

/-- Reads a number. It has no superfluous zero in front, and digits on both sides of a point. One
that is too great is read like any other, but has no value. -/
def readNumber? (cs : List Char) : Option (Option JsonNumber × List Char) := do
  let (negative, cs) := readSign cs
  let ints := cs.takeWhile isAsciiDigit
  if ints.isEmpty || (ints.length > 1 && ints.head? = some '0') then none
  else
    let (decimals, cs) ← readFraction? (cs.drop ints.length)
    let (exponent, cs) ← readExponent? cs
    return (JsonNumber.ofDigits? negative ints decimals exponent, cs)

def readScalar? (cs : List Char) : Option (Json × List Char) :=
  match cs with
  | '"' :: rest => (readText? rest).map fun r => ((r.1.map text).getD unreadable, r.2)
  | 'n' :: 'u' :: 'l' :: 'l' :: rest => some (.null, rest)
  | 't' :: 'r' :: 'u' :: 'e' :: rest => some (.bool true, rest)
  | 'f' :: 'a' :: 'l' :: 's' :: 'e' :: rest => some (.bool false, rest)
  | _ => (readNumber? cs).map fun r => ((r.1.map number).getD unreadable, r.2)

def readName? (cs : List Char) : Option (Option String × List Char) :=
  match skipGap cs with
  | '"' :: rest => do
    let (name, rest) ← readText? rest
    match skipGap rest with
    | ':' :: rest => some (name, rest)
    | _ => none
  | _ => none

def ofFields (fields : List (Option String × Json)) : Json :=
  match fields.mapM fun f => f.1.map fun name => (name, f.2) with
  | some named => object named
  | none => unreadable

mutual

/-- Reads a value. Every call reads a character, so `fuel` is a number of characters that is not
less than those that are left. -/
def readValue? (fuel : Nat) (cs : List Char) : Option (Json × List Char) :=
  match fuel with
  | 0 => none
  | fuel + 1 =>
    match skipGap cs with
    | '[' :: rest =>
      match skipGap rest with
      | ']' :: rest => some (.array [], rest)
      | rest => (readItems? fuel rest).map fun r => (.array r.1, r.2)
    | '\x7b' :: rest =>
      match skipGap rest with
      | '\x7d' :: rest => some (.object [], rest)
      | rest => (readFields? fuel rest).map fun r => (ofFields r.1, r.2)
    | cs => readScalar? cs

def readItems? (fuel : Nat) (cs : List Char) : Option (List Json × List Char) :=
  match fuel with
  | 0 => none
  | fuel + 1 => do
    let (item, rest) ← readValue? fuel cs
    match skipGap rest with
    | ']' :: rest => some ([item], rest)
    | ',' :: rest => (readItems? fuel rest).map fun r => (item :: r.1, r.2)
    | _ => none

def readFields? (fuel : Nat) (cs : List Char) :
    Option (List (Option String × Json) × List Char) :=
  match fuel with
  | 0 => none
  | fuel + 1 => do
    let (name, rest) ← readName? cs
    let (value, rest) ← readValue? fuel rest
    match skipGap rest with
    | '\x7d' :: rest => some ([(name, value)], rest)
    | ',' :: rest => (readFields? fuel rest).map fun r => ((name, value) :: r.1, r.2)
    | _ => none

end

def parse? (s : String) : Option Json := do
  let cs := s.toList
  let (value, rest) ← readValue? (2 * cs.length + 2) cs
  if (skipGap rest).isEmpty then some value else none

end Json

end CulpritFinding
