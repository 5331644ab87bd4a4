import CulpritFinding.Json.Value
import CulpritFinding.Text.Hex
import CulpritFinding.Text.Number

namespace CulpritFinding

namespace JsonNumber

/-- The text of `digits * 10 ^ power`, with digits on both sides of the point if there is one. It
has an exponent only where more than sixteen digits would stand before the point, or more than four
zeros between the point and the first digit. -/
def decimalText (digits : Nat) (power : Int) : String :=
  let ds := Nat.toDigits 10 digits
  let point := ds.length + power
  let zeros (n : Int) := List.replicate n.toNat '0'
  String.ofList <|
    if 0 ≤ power ∧ point ≤ 16 then ds ++ zeros power ++ ['.', '0']
    else if 0 < point ∧ point ≤ 16 then ds.take point.toNat ++ '.' :: ds.drop point.toNat
    else if -5 < point ∧ point ≤ 0 then '0' :: '.' :: zeros (-point) ++ ds
    else
      let decimals := ds.drop 1
      ds.take 1 ++ (if decimals.isEmpty then [] else '.' :: decimals) ++
        'e' :: (intText (point - 1)).toList

def print : JsonNumber → String
  | whole n => intText n
  | float negative x =>
    let (digits, power) := x.shortest
    (if negative then "-" else "") ++ decimalText digits power

end JsonNumber

namespace Json

def escapedControl (c : Char) : List Char :=
  '\\' :: 'u' :: hexDigits 4 c.toNat

def escapedChar (c : Char) : List Char :=
  if c = '"' then ['\\', '"']
  else if c = '\\' then ['\\', '\\']
  else if c = '\n' then ['\\', 'n']
  else if c = '\r' then ['\\', 'r']
  else if c = '\t' then ['\\', 't']
  else if c.toNat < 32 then escapedControl c
  else [c]

def quoted (s : String) : String := String.ofList ('"' :: s.toList.flatMap escapedChar ++ ['"'])

mutual

def compact : Json → String
  | null => "null"
  | bool true => "true"
  | bool false => "false"
  | number n => n.print
  | text s => quoted s
  | array items => "[" ++ compactItems items ++ "]"
  | object fields => "\x7b" ++ compactFields fields ++ "\x7d"
  | unreadable => "null"

def compactItems : List Json → String
  | [] => ""
  | [j] => compact j
  | j :: rest => compact j ++ "," ++ compactItems rest

def compactFields : List (String × Json) → String
  | [] => ""
  | [(name, j)] => quoted name ++ ":" ++ compact j
  | (name, j) :: rest => quoted name ++ ":" ++ compact j ++ "," ++ compactFields rest

end

def newLine (level : Nat) : String := String.ofList ('\n' :: List.replicate (2 * level) ' ')

mutual

def indented (level : Nat) : Json → String
  | array [] => "[]"
  | array items => "[" ++ indentedItems (level + 1) items ++ newLine level ++ "]"
  | object [] => "\x7b\x7d"
  | object fields => "\x7b" ++ indentedFields (level + 1) fields ++ newLine level ++ "\x7d"
  | null | unreadable => "null"
  | bool true => "true"
  | bool false => "false"
  | number n => n.print
  | text s => quoted s

def indentedItems (level : Nat) : List Json → String
  | [] => ""
  | [j] => newLine level ++ indented level j
  | j :: rest => newLine level ++ indented level j ++ "," ++ indentedItems level rest

def indentedFields (level : Nat) : List (String × Json) → String
  | [] => ""
  | [(name, j)] => newLine level ++ quoted name ++ ": " ++ indented level j
  | (name, j) :: rest =>
    newLine level ++ quoted name ++ ": " ++ indented level j ++ "," ++ indentedFields level rest

end

def pretty (j : Json) : String := indented 0 j

end Json

end CulpritFinding
