import CulpritFinding.GroupId
import CulpritFinding.Json.Value
import CulpritFinding.SortedMap
import CulpritFinding.SortedSet
import CulpritFinding.Time.Rfc3339

namespace CulpritFinding

structure Format (α : Type) where
  write : α → Json
  read? : Json → Option α

namespace Format

def text : Format String where
  write := .text
  read?
    | .text s => some s
    | _ => none

def flag : Format Bool where
  write := .bool
  read?
    | .bool b => some b
    | _ => none

def readWhole? (fits : Int → Bool) : Json → Option Int
  | .number (.whole n) => if fits n then some n else none
  | _ => none

def int64 : Format Int where
  write := .int
  read? := readWhole? fitsInt64

def natBelow (bound : Nat) : Format Nat where
  write := .nat
  read? j := (readWhole? (fun n => 0 ≤ n && n < bound) j).map Int.toNat

def nat32 : Format Nat := natBelow limit32

def nat64 : Format Nat := natBelow limit64

def ofText {α : Type} (write : α → String) (read? : String → Option α) : Format α where
  write v := .text (write v)
  read?
    | .text s => read? s
    | _ => none

def instant : Format Instant := ofText Instant.text Instant.parse?

def groupId : Format GroupId := ofText GroupId.text GroupId.parse?

def named? {α : Type} (all : List α) (name : α → String) (s : String) : Option α :=
  all.find? fun v => name v = s

/-- One of finitely many named values. Reading also takes an object with the name as its only
field and nothing in it, as `isNothing` has it. -/
def enumWith {α : Type} (isNothing : Json → Bool) (all : List α) (name : α → String) :
    Format α where
  write v := .text (name v)
  read?
    | .text s => named? all name s
    | .object [(s, content)] => if isNothing content then named? all name s else none
    | _ => none

def enum {α : Type} : (all : List α) → (name : α → String) → Format α := enumWith Json.isNull

def enumInCase {α : Type} : (all : List α) → (name : α → String) → Format α :=
  enumWith Json.isVoid

def any : Format Json where
  write := id
  read? j := if j.isKept Json.maxDepth then some j else none

def option {α : Type} (f : Format α) : Format (Option α) where
  write
    | none => .null
    | some v => f.write v
  read?
    | .null => some none
    | j => (f.read? j).map some

def list {α : Type} (f : Format α) : Format (List α) where
  write vs := .array (vs.map f.write)
  read?
    | .array js => js.mapM f.read?
    | _ => none

def set {κ : Type} [SortKey κ] (f : Format κ) : Format (SortedSet κ) where
  write s := f.list.write s.toList
  read? j := (f.list.read? j).map .ofList

def pair {α β : Type} (f : Format α) (g : Format β) : Format (α × β) where
  write v := .array [f.write v.1, g.write v.2]
  read?
    | .array [j, j'] => do return (← f.read? j, ← g.read? j')
    | _ => none

def mapBy {κ ν : Type} [SortKey κ] (name : κ → String) (key? : String → Option κ) (f : Format ν) :
    Format (SortedMap κ ν) where
  write m := .object (m.toList.map fun e => (name e.1, f.write e.2))
  read?
    | .object fields =>
      (fields.mapM fun (e : String × Json) => do return (← key? e.1, ← f.read? e.2)).map .ofList
    | _ => none

def map {ν : Type} (f : Format ν) : Format (SortedMap String ν) := mapBy id some f

def iso {α β : Type} (f : Format α) (forth : α → β) (back : β → α) : Format β where
  write v := f.write (back v)
  read? j := (f.read? j).map forth

end Format

inductive Fields
  | named (all : List (String × Json))
  | inOrder (rest : List Json)

/-- What a field that is not written stands for: in a record with named fields, and in one that
ends before the field. `none` means that the field has to be written. -/
structure Absence (α : Type) where
  whenNamed : Option α
  whenInOrder : Option α

namespace Absence

def refused {α : Type} : Absence α := ⟨none, none⟩

def standsFor {α : Type} (v : α) : Absence α := ⟨some v, some v⟩

def nameOnly {α : Type} : Absence (Option α) := ⟨some none, none⟩

end Absence

/-- How a part `α` of a record `ρ` is written as fields and read back from them. -/
structure Shape (ρ α : Type) where
  write : ρ → List (String × Json)
  read? : Fields → Option (α × Fields)

namespace Shape

variable {ρ α β : Type}

def pure (v : α) : Shape ρ α where
  write _ := []
  read? fields := some (v, fields)

def field (name : String) (f : Format α) (part : ρ → α) (absence : Absence α) : Shape ρ α where
  write r := [(name, f.write (part r))]
  read?
    | .named all =>
      match Json.fieldsNamed all name with
      | [] => absence.whenNamed.map (·, .named all)
      | [j] => (f.read? j).map (·, .named all)
      | _ => none
    | .inOrder [] => absence.whenInOrder.map (·, .inOrder [])
    | .inOrder (j :: rest) => (f.read? j).map (·, .inOrder rest)

def and (s : Shape ρ (α → β)) (t : Shape ρ α) : Shape ρ β where
  write r := s.write r ++ t.write r
  read? fields := do
    let (f, fields) ← s.read? fields
    let (v, fields) ← t.read? fields
    return (f v, fields)

def required (s : Shape ρ (α → β)) (name : String) (f : Format α) (part : ρ → α) : Shape ρ β :=
  s.and (field name f part .refused)

def withDefault (s : Shape ρ (α → β)) (name : String) (f : Format α) (part : ρ → α) (v : α) :
    Shape ρ β :=
  s.and (field name f part (.standsFor v))

def optional (s : Shape ρ (Option α → β)) (name : String) (f : Format α) (part : ρ → Option α) :
    Shape ρ β :=
  s.withDefault name f.option part none

def readAll? (s : Shape ρ α) (fields : Fields) : Option α := do
  let (v, rest) ← s.read? fields
  match rest with
  | .inOrder (_ :: _) => none
  | _ => some v

end Shape

namespace Fields

def readNothing? {α : Type} (v : α) : Fields → Option α
  | .inOrder (_ :: _) => none
  | _ => some v

def readOne? {α : Type} (name : String) (f : Format α) (fields : Fields) : Option α :=
  (Shape.field name f id .refused).readAll? fields

end Fields

namespace Format

def record {ρ : Type} (s : Shape ρ ρ) : Format ρ where
  write r := .object (s.write r)
  read?
    | .object fields => s.readAll? (.named fields)
    | .array items => s.readAll? (.inOrder items)
    | _ => none

def tagged {α : Type} (tag : String) (write : α → String × List (String × Json))
    (read? : String → Fields → Option α) : Format α where
  write v := .object ((tag, .text (write v).1) :: (write v).2)
  read?
    | .object fields =>
      match Json.fieldsNamed fields tag with
      | [.text name] => read? name (.named (fields.filter fun f => f.1 ≠ tag))
      | _ => none
    | .array (.text name :: rest) => read? name (.inOrder rest)
    | _ => none

end Format

end CulpritFinding
