import CulpritFinding.Text.Digit

namespace CulpritFinding

def limit32 : Nat := 4294967296

def limit64 : Nat := 18446744073709551616

def fitsInt64 (n : Int) : Bool := -9223372036854775808 ≤ n && n ≤ 9223372036854775807

def int64? (n : Int) : Option Int := if fitsInt64 n then some n else none

def lastDigit (n : Nat) : Char := Char.ofNat (48 + n % 10)

def fixedDigits : (width n : Nat) → List Char
  | 0, _ => []
  | width + 1, n => fixedDigits width (n / 10) ++ [lastDigit n]

def paddedDigits (width n : Nat) : List Char :=
  fixedDigits (max width (Nat.toDigits 10 n).length) n

def digitsValue (ds : List Char) : Nat := ds.foldl (fun n c => n * 10 + (c.toNat - 48)) 0

/-- Reads the digits at the start of a text, `most` of them at the most and one at the least. -/
def readDigits? (most : Nat) (cs : List Char) : Option (Nat × List Char) :=
  let ds := (cs.take most).takeWhile isAsciiDigit
  if ds.isEmpty then none else some (digitsValue ds, cs.drop ds.length)

def wholeNumber? (cs : List Char) : Option Nat :=
  if !cs.isEmpty && cs.all isAsciiDigit then some (digitsValue cs) else none

def natText (n : Nat) : String := String.ofList (Nat.toDigits 10 n)

def intText : Int → String
  | .ofNat n => natText n
  | .negSucc n => "-" ++ natText (n + 1)

end CulpritFinding
