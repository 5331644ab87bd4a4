namespace CulpritFinding

structure Table (κ ν : Type) where
  rows : List (κ × ν)
  deriving DecidableEq

namespace Table

variable {κ ν : Type} [DecidableEq κ]

def empty : Table κ ν := ⟨[]⟩

instance : Inhabited (Table κ ν) := ⟨⟨[]⟩⟩

def get? (t : Table κ ν) (key : κ) : Option ν :=
  (t.rows.find? fun row => row.1 = key).map (·.2)

/-- Writes a record over the first row with its key, or as a new row at the end. -/
def writeRow (key : κ) (record : ν) : List (κ × ν) → List (κ × ν)
  | [] => [(key, record)]
  | row :: rest => if row.1 = key then (key, record) :: rest else row :: writeRow key record rest

def put (t : Table κ ν) (key : κ) (record : ν) : Table κ ν :=
  ⟨writeRow key record t.rows⟩

theorem find?_writeRow (key key' : κ) (record : ν) (rows : List (κ × ν)) :
    (writeRow key record rows).find? (fun row => row.1 = key') =
      if key = key' then some (key, record) else rows.find? fun row => row.1 = key' := by
  induction rows with
  | nil => by_cases h : key = key' <;> simp [writeRow, h]
  | cons row rest ih =>
    by_cases same : row.1 = key
    · by_cases h : key = key' <;> simp_all [writeRow]
    · simp only [writeRow, if_neg same, List.find?_cons, ih]
      by_cases h : key = key' <;> by_cases h' : row.1 = key' <;> simp_all

theorem get?_put (t : Table κ ν) (key key' : κ) (record : ν) :
    (t.put key record).get? key' = if key = key' then some record else t.get? key' := by
  simp only [get?, put, find?_writeRow]
  split <;> rfl

theorem writeRow_of_find? {key : κ} {record : ν} {rows : List (κ × ν)}
    (known : (rows.find? fun row => row.1 = key).map (·.2) = some record) :
    writeRow key record rows = rows := by
  induction rows with
  | nil => cases known
  | cons row rest ih =>
    unfold writeRow
    by_cases same : row.1 = key
    · have first : row.2 = record := by simpa [same] using known
      rw [if_pos same, ← same, ← first]
    · rw [if_neg same, ih (by simpa [same] using known)]

theorem put_of_get? {t : Table κ ν} {key : κ} {record : ν} (known : t.get? key = some record) :
    t.put key record = t := by
  unfold put
  rw [writeRow_of_find? known]

end Table

end CulpritFinding
