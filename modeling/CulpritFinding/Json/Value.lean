import CulpritFinding.Json.Number

namespace CulpritFinding

inductive Json
  | null
  | bool (value : Bool)
  | number (value : JsonNumber)
  | text (value : String)
  | array (items : List Json)
  | object (fields : List (String × Json))
  /-- A text with half a pair of code units, an object with such a text as the name of a field, or a
  number that is too great. No format reads it. -/
  | unreadable

namespace Json

instance : Inhabited Json := ⟨null⟩

def int (n : Int) : Json := number (.whole n)

def nat (n : Nat) : Json := number (.whole n)

def fieldsNamed (fields : List (String × Json)) (name : String) : List Json :=
  (fields.filter fun f => f.1 = name).map (·.2)

def isNull : Json → Bool
  | null => true
  | _ => false

def isVoid : Json → Bool
  | null | object [] => true
  | _ => false

def maxDepth : Nat := 127

mutual

def isKept (depth : Nat) : Json → Bool
  | null | bool _ | number _ | text _ => true
  | array items => depth ≠ 0 && allKept (depth - 1) items
  | object fields => depth ≠ 0 && allFieldsKept (depth - 1) fields
  | unreadable => false

def allKept (depth : Nat) : List Json → Bool
  | [] => true
  | j :: rest => isKept depth j && allKept depth rest

def allFieldsKept (depth : Nat) : List (String × Json) → Bool
  | [] => true
  | (_, j) :: rest => isKept depth j && allFieldsKept depth rest

end

end Json

end CulpritFinding
