import CulpritFinding.Order

namespace CulpritFinding

def Ascending {κ ν : Type} [SortKey κ] (entries : List (κ × ν)) : Prop :=
  entries.Pairwise fun a b => SortKey.before a.1 b.1 = true

theorem get_foldl_put {σ κ ν : Type} [DecidableEq κ] {get : σ → κ → Option ν} {put : σ → κ → ν → σ}
    (get_put : ∀ s key key' value,
      get (put s key value) key' = if key = key' then some value else get s key')
    (s : σ) {entries : List (κ × ν)} (unique : (entries.map (·.1)).Nodup) (key : κ) :
    get (entries.foldl (fun s e => put s e.1 e.2) s) key =
      ((entries.find? fun e => e.1 = key).map (·.2)).or (get s key) := by
  induction entries generalizing s with
  | nil => rfl
  | cons e rest ih =>
    rw [List.map_cons, List.nodup_cons] at unique
    rw [List.foldl_cons, ih _ unique.2, get_put]
    by_cases same : e.1 = key
    · have absent : (rest.find? fun e' => e'.1 = key) = none := by
        refine List.find?_eq_none.mpr fun e' member clash => unique.1 ?_
        rw [same, ← of_decide_eq_true clash]
        exact List.mem_map_of_mem member
      simp [same, absent]
    · simp [same]

structure SortedMap (κ ν : Type) [SortKey κ] where
  toList : List (κ × ν)
  ascending : Ascending toList

namespace SortedMap

variable {κ ν μ : Type} [SortKey κ]

@[ext] theorem ext {m m' : SortedMap κ ν} (h : m.toList = m'.toList) : m = m' := by
  cases m
  cases m'
  cases h
  rfl

instance [DecidableEq κ] [DecidableEq ν] : DecidableEq (SortedMap κ ν) := fun m m' =>
  decidable_of_iff (m.toList = m'.toList) ⟨ext, fun h => h ▸ rfl⟩

def empty : SortedMap κ ν := ⟨[], .nil⟩

@[simp] theorem toList_empty : (empty : SortedMap κ ν).toList = [] := rfl

instance : Inhabited (SortedMap κ ν) := ⟨empty⟩

def isEmpty (m : SortedMap κ ν) : Bool := m.toList.isEmpty

def size (m : SortedMap κ ν) : Nat := m.toList.length

def keys (m : SortedMap κ ν) : List κ := m.toList.map (·.1)

def values (m : SortedMap κ ν) : List ν := m.toList.map (·.2)

def insertEntry (key : κ) (value : ν) : List (κ × ν) → List (κ × ν)
  | [] => [(key, value)]
  | (k, v) :: rest =>
    if SortKey.before key k then (key, value) :: (k, v) :: rest
    else if SortKey.before k key then (k, v) :: insertEntry key value rest
    else (key, value) :: rest

theorem mem_of_mem_insertEntry {key : κ} {value : ν} {entries : List (κ × ν)} {e : κ × ν}
    (h : e ∈ insertEntry key value entries) : e = (key, value) ∨ e ∈ entries := by
  induction entries with
  | nil => simpa [insertEntry] using h
  | cons head rest ih =>
    obtain ⟨k, v⟩ := head
    simp only [insertEntry] at h
    split at h
    · simpa using h
    · split at h
      · rcases List.mem_cons.mp h with h | h
        · exact .inr (by simp [h])
        · exact (ih h).imp id (List.mem_cons_of_mem _)
      · rcases List.mem_cons.mp h with h | h
        · exact .inl h
        · exact .inr (List.mem_cons_of_mem _ h)

theorem ascending_insertEntry (key : κ) (value : ν) {entries : List (κ × ν)}
    (h : Ascending entries) : Ascending (insertEntry key value entries) := by
  induction entries with
  | nil => exact List.pairwise_singleton _ _
  | cons head rest ih =>
    obtain ⟨k, v⟩ := head
    have after := List.pairwise_cons.mp h
    simp only [insertEntry]
    split
    · rename_i first
      refine List.pairwise_cons.mpr ⟨fun e he => ?_, h⟩
      rcases List.mem_cons.mp he with rfl | he
      · exact first
      · exact SortKey.before_trans first (after.1 e he)
    · rename_i notFirst
      split
      · rename_i later
        refine List.pairwise_cons.mpr ⟨fun e he => ?_, ih after.2⟩
        rcases mem_of_mem_insertEntry he with rfl | he
        · exact later
        · exact after.1 e he
      · rename_i notLater
        have same : key = k :=
          SortKey.eq_of_not_before (by simpa using notFirst) (by simpa using notLater)
        subst same
        exact List.pairwise_cons.mpr ⟨after.1, after.2⟩

def insert (m : SortedMap κ ν) (key : κ) (value : ν) : SortedMap κ ν :=
  ⟨insertEntry key value m.toList, ascending_insertEntry key value m.ascending⟩

/-- The map of a list of entries; of two entries with one key the later one counts. -/
def ofList (entries : List (κ × ν)) : SortedMap κ ν :=
  entries.foldl (fun m e => m.insert e.1 e.2) empty

theorem mem_of_mem_ofList {entries : List (κ × ν)} {e : κ × ν} (h : e ∈ (ofList entries).toList) :
    e ∈ entries := by
  have inserted : ∀ (entries : List (κ × ν)) (m : SortedMap κ ν),
      e ∈ (entries.foldl (fun m e => m.insert e.1 e.2) m).toList → e ∈ entries ∨ e ∈ m.toList := by
    intro entries
    induction entries with
    | nil => exact fun _ => .inr
    | cons head rest ih =>
      intro m member
      rcases ih _ member with later | known
      · exact .inl (List.mem_cons_of_mem _ later)
      · rcases mem_of_mem_insertEntry known with rfl | known
        · exact .inl List.mem_cons_self
        · exact .inr known
  exact (inserted entries empty h).resolve_right List.not_mem_nil

def map (f : κ → ν → μ) (m : SortedMap κ ν) : SortedMap κ μ where
  toList := m.toList.map fun e => (e.1, f e.1 e.2)
  ascending := by
    unfold Ascending
    rw [List.pairwise_map]
    exact m.ascending

def filter (p : κ → ν → Bool) (m : SortedMap κ ν) : SortedMap κ ν where
  toList := m.toList.filter fun e => p e.1 e.2
  ascending := List.Pairwise.filter _ m.ascending

variable [DecidableEq κ]

def get? (m : SortedMap κ ν) (key : κ) : Option ν :=
  (m.toList.find? fun e => e.1 = key).map (·.2)

theorem find?_insertEntry (key key' : κ) (value : ν) (entries : List (κ × ν)) :
    (insertEntry key value entries).find? (fun e => e.1 = key') =
      if key = key' then some (key, value) else entries.find? fun e => e.1 = key' := by
  induction entries with
  | nil => by_cases same : key = key' <;> simp [insertEntry, same]
  | cons head rest ih =>
    obtain ⟨k, v⟩ := head
    simp only [insertEntry]
    split
    · by_cases same : key = key' <;> simp [same]
    · rename_i notFirst
      split
      · rename_i later
        have apart : k ≠ key := SortKey.ne_of_before later
        simp only [List.find?_cons, ih]
        by_cases same : key = key'
        · simp [same ▸ apart, same]
        · simp [same]
      · rename_i notLater
        have taken : key = k :=
          SortKey.eq_of_not_before (by simpa using notFirst) (by simpa using notLater)
        by_cases same : key = key' <;> simp [← taken, same]

theorem get?_insert (m : SortedMap κ ν) (key key' : κ) (value : ν) :
    (m.insert key value).get? key' = if key = key' then some value else m.get? key' := by
  simp only [get?, insert, find?_insertEntry]
  split <;> rfl

def contains (m : SortedMap κ ν) (key : κ) : Bool :=
  m.toList.any fun e => e.1 = key

def upsert (m : SortedMap κ ν) (key : κ) (f : Option ν → ν) : SortedMap κ ν :=
  m.insert key (f (m.get? key))

theorem get?_empty (key : κ) : (empty : SortedMap κ ν).get? key = none := rfl

theorem get?_ofList (entries : List (κ × ν)) (key : κ) :
    (ofList entries).get? key = (entries.reverse.find? fun e => e.1 = key).map (·.2) := by
  have inserted : ∀ m : SortedMap κ ν, (entries.foldl (fun m e => m.insert e.1 e.2) m).get? key =
      ((entries.reverse.find? fun e => e.1 = key).map (·.2)).or (m.get? key) := by
    induction entries with
    | nil => exact fun _ => rfl
    | cons e rest ih =>
      intro m
      rw [List.foldl_cons, ih, get?_insert, List.reverse_cons, List.find?_append]
      cases rest.reverse.find? fun e => e.1 = key with
      | some later => rfl
      | none => by_cases own : e.1 = key <;> simp [own]
  exact (inserted empty).trans (Option.or_none ..)

theorem get?_upsert (m : SortedMap κ ν) (key key' : κ) (f : Option ν → ν) :
    (m.upsert key f).get? key' = if key = key' then some (f (m.get? key')) else m.get? key' := by
  unfold upsert
  rw [get?_insert]
  by_cases same : key = key'
  · rw [if_pos same, if_pos same, same]
  · rw [if_neg same, if_neg same]

omit [DecidableEq κ] in
theorem nodup_keys (m : SortedMap κ ν) : m.keys.Nodup :=
  List.pairwise_map.mpr (m.ascending.imp fun before => SortKey.ne_of_before before)

omit [DecidableEq κ] in
theorem nodup (m : SortedMap κ ν) : m.toList.Nodup :=
  m.ascending.imp fun before same => SortKey.ne_of_before before (congrArg Prod.fst same)

theorem find?_eq_some_of_mem {entries : List (κ × ν)} (h : Ascending entries) {e : κ × ν}
    (member : e ∈ entries) : entries.find? (fun e' => e'.1 = e.1) = some e := by
  induction entries with
  | nil => cases member
  | cons head rest ih =>
    obtain ⟨first, after⟩ := List.pairwise_cons.mp h
    rcases List.mem_cons.mp member with rfl | later
    · simp
    · have apart : head.1 ≠ e.1 := SortKey.ne_of_before (first e later)
      simpa [apart] using ih after later

theorem get?_eq_some {m : SortedMap κ ν} {key : κ} {value : ν} :
    m.get? key = some value ↔ (key, value) ∈ m.toList := by
  unfold get?
  constructor
  · intro found
    obtain ⟨e, search, rfl⟩ := Option.map_eq_some_iff.mp found
    have same : e.1 = key := by simpa using List.find?_some search
    exact same ▸ List.mem_of_find?_eq_some search
  · intro member
    rw [find?_eq_some_of_mem m.ascending member]
    rfl

theorem contains_eq_isSome (m : SortedMap κ ν) (key : κ) :
    m.contains key = (m.get? key).isSome := by
  unfold contains get?
  rw [Option.isSome_map, List.isSome_find?]

theorem isEmpty_iff {m : SortedMap κ ν} : m.isEmpty = true ↔ ∀ key, m.get? key = none := by
  unfold isEmpty
  rw [List.isEmpty_iff, List.eq_nil_iff_forall_not_mem]
  constructor
  · intro nothing key
    cases found : m.get? key with
    | none => rfl
    | some value => exact absurd (get?_eq_some.mp found) (nothing _)
  · intro nothing e member
    cases (nothing e.1).symm.trans (get?_eq_some.mpr member)

theorem ext_get? {m m' : SortedMap κ ν} (same : ∀ key, m.get? key = m'.get? key) : m = m' := by
  have entries : ∀ e : κ × ν, e ∈ m.toList ↔ e ∈ m'.toList := by
    intro e
    rw [← get?_eq_some, ← get?_eq_some, same]
  have perm : m.toList.Perm m'.toList :=
    (List.perm_ext_iff_of_nodup m.nodup m'.nodup).mpr entries
  refine ext (perm.eq_of_pairwise ?_ m.ascending m'.ascending)
  intro e e' member member' before after
  rw [SortKey.not_before_of_before before] at after
  cases after

theorem ofList_toList (m : SortedMap κ ν) : ofList m.toList = m := by
  refine ext_get? fun key => ?_
  unfold ofList
  rw [get_foldl_put get?_insert _ m.nodup_keys, get?_empty, Option.or_none]
  rfl

theorem get?_map (f : κ → ν → μ) (m : SortedMap κ ν) (key : κ) :
    (m.map f).get? key = (m.get? key).map (f key) := by
  refine Option.ext fun value => ?_
  rw [get?_eq_some, Option.map_eq_some_iff]
  constructor
  · intro member
    obtain ⟨⟨k, former⟩, known, same⟩ := List.mem_map.mp member
    cases same
    exact ⟨former, get?_eq_some.mpr known, rfl⟩
  · rintro ⟨former, known, rfl⟩
    exact List.mem_map_of_mem (f := fun e => (e.1, f e.1 e.2)) (get?_eq_some.mp known)

theorem get?_filter (p : κ → ν → Bool) (m : SortedMap κ ν) (key : κ) :
    (m.filter p).get? key = (m.get? key).filter (p key) := by
  refine Option.ext fun value => ?_
  rw [get?_eq_some, Option.filter_eq_some_iff, get?_eq_some]
  exact List.mem_filter

end SortedMap

end CulpritFinding
