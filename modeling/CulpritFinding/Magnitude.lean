import CulpritFinding.Text.Number

namespace CulpritFinding

/-- The number of magnitudes in a row. All of a row have one exponent: that of the first two rows is
the least one, and from then on it goes up by one from row to row. -/
def Magnitude.rowSize : Nat := Nat.pow 2 52

/-- The magnitude of a finite floating point number of 64 bits, by its place among all of them in
ascending order, zero first. -/
structure Magnitude where
  rank : Nat
  rank_lt : rank < 2047 * Magnitude.rowSize
  deriving DecidableEq

/-- The whole number next to a quotient; of two that are equally near, the even one. -/
def roundedQuotient (num den : Nat) : Nat :=
  let q := num / den
  let twice := 2 * (num % den)
  if den < twice ∨ (twice = den ∧ q % 2 = 1) then q + 1 else q

namespace Magnitude

def leastExponent : Int := -1074

def zero : Magnitude := ⟨0, by decide⟩

def excess (x : Magnitude) : Nat := x.rank / rowSize - 1

def exponent (x : Magnitude) : Int := leastExponent + x.excess

def significand (x : Magnitude) : Nat := x.rank - x.excess * rowSize

def num (x : Magnitude) : Nat := x.significand * Nat.pow 2 x.exponent.toNat

def den (x : Magnitude) : Nat := Nat.pow 2 (-x.exponent).toNat

def floorLog2 (num den : Nat) : Int :=
  let k : Int := num.log2 - den.log2
  if num * Nat.pow 2 (-k).toNat < den * Nat.pow 2 k.toNat then k - 1 else k

/-- The magnitude next to a quotient; the denominator is positive. A significand that is rounded up
to the next power of two gives the rank of the first magnitude of the next row. -/
def round? (num den : Nat) : Option Magnitude :=
  if num = 0 then some zero
  else
    let exponent := max (floorLog2 num den - 52) leastExponent
    let significand :=
      roundedQuotient (num * Nat.pow 2 (-exponent).toNat) (den * Nat.pow 2 exponent.toNat)
    let rank := (exponent - leastExponent).toNat * rowSize + significand
    if h : rank < 2047 * rowSize then some ⟨rank, h⟩ else none

def ofNat? (n : Nat) : Option Magnitude := round? n 1

def ofDecimal? (digits : Nat) (power : Int) : Option Magnitude :=
  round? (digits * Nat.pow 10 power.toNat) (Nat.pow 10 (-power).toNat)

def times? (x y : Magnitude) : Option Magnitude := round? (x.num * y.num) (x.den * y.den)

def over? (x y : Magnitude) : Option Magnitude := round? (x.num * y.den) (x.den * y.num)

def maxPower : Nat := 308

/-- A magnitude moved by a power of ten: by a product or a quotient with the magnitude next to that
power, after quotients with the greatest one as long as the power is too small for that. Only zero
is moved by more than the greatest power. -/
def scale? (x : Magnitude) (power : Int) : Option Magnitude :=
  if x = zero then some zero
  else if maxPower < power then none
  else if 0 ≤ power then do x.times? (← ofDecimal? 1 power)
  else if power < -maxPower then do
    (← x.over? (← ofDecimal? 1 maxPower)).scale? (power + maxPower)
  else do x.over? (← ofDecimal? 1 (-power))
termination_by power.natAbs
decreasing_by simp only [maxPower] at *; omega

def multiple? (x : Magnitude) (power : Int) : Option Nat :=
  let num := x.num * Nat.pow 10 (-power).toNat
  let den := x.den * Nat.pow 10 power.toNat
  let below := num / den
  let nearer := roundedQuotient num den
  let other := if nearer = below then below + 1 else below
  [nearer, other].find? fun digits => ofDecimal? digits power = some x

/-- The fewest digits, with a power of ten, that are rounded to a magnitude: those of its multiple
of the greatest power that has one. The search starts with a power above the magnitude. Seventeen
digits suffice; if they did not, all digits of the magnitude would be given. -/
def shortest (x : Magnitude) : Nat × Int :=
  if x = zero then (0, 0)
  else
    let top : Int := (Nat.toDigits 10 x.num).length - (Nat.toDigits 10 x.den).length + 1
    let found? := (List.range 20).findSome? fun (i : Nat) =>
      (x.multiple? (top - i)).map fun digits => (digits, top - i)
    found?.getD (x.num * Nat.pow 5 (-x.exponent).toNat, min x.exponent 0)

end Magnitude

end CulpritFinding
