import CulpritFinding.Magnitude

namespace CulpritFinding

inductive JsonNumber
  | whole (value : Int)
  | float (negative : Bool) (magnitude : Magnitude)
  deriving DecidableEq

def appendDigits (n : Nat) : List Char → Nat × List Char
  | [] => (n, [])
  | c :: rest =>
    let longer := n * 10 + (c.toNat - 48)
    if longer < limit64 then appendDigits longer rest else (n, c :: rest)

namespace JsonNumber

/-- Whether a number of 64 bits with a sign in front is kept as a whole number; zero is not, so that
it keeps the sign. -/
def isWhole (negative : Bool) (n : Nat) : Bool := !negative || (0 < n && n ≤ 9223372036854775808)

/-- A number with its sign, digits before and after the point, and exponent, unless it is too great.
Digits after the point are appended to those before it, of which some may be left out; each one that
is left out before the point counts as a power of ten, each one that is appended takes one away. -/
def ofDigits? (negative : Bool) (ints decimals : List Char) (exponent : Option Int) :
    Option JsonNumber := do
  let (n, restInts) := appendDigits 0 ints
  let (n, restDecimals) := appendDigits n decimals
  if decimals.isEmpty && exponent.isNone && restInts.isEmpty && isWhole negative n then
    return .whole (if negative then -n else n)
  let power := exponent.getD 0 + restInts.length + restDecimals.length - decimals.length
  return .float negative (← (← Magnitude.ofNat? n).scale? power)

end JsonNumber

end CulpritFinding
