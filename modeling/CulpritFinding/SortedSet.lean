import CulpritFinding.Order

namespace CulpritFinding

structure SortedSet (κ : Type) [SortKey κ] where
  toList : List κ
  ascending : toList.Pairwise fun a b => SortKey.before a b = true

namespace SortedSet

variable {κ : Type} [SortKey κ]

@[ext] theorem ext {s s' : SortedSet κ} (h : s.toList = s'.toList) : s = s' := by
  cases s
  cases s'
  cases h
  rfl

instance [DecidableEq κ] : DecidableEq (SortedSet κ) := fun s s' =>
  decidable_of_iff (s.toList = s'.toList) ⟨ext, fun h => h ▸ rfl⟩

def empty : SortedSet κ := ⟨[], .nil⟩

instance : Inhabited (SortedSet κ) := ⟨empty⟩

def isEmpty (s : SortedSet κ) : Bool := s.toList.isEmpty

def size (s : SortedSet κ) : Nat := s.toList.length

def insertMember (a : κ) : List κ → List κ
  | [] => [a]
  | b :: rest =>
    if SortKey.before a b then a :: b :: rest
    else if SortKey.before b a then b :: insertMember a rest
    else b :: rest

theorem mem_of_mem_insertMember {a b : κ} {members : List κ} (h : b ∈ insertMember a members) :
    b = a ∨ b ∈ members := by
  induction members with
  | nil => simpa [insertMember] using h
  | cons c rest ih =>
    simp only [insertMember] at h
    split at h
    · simpa using h
    · split at h
      · rcases List.mem_cons.mp h with h | h
        · exact .inr (by simp [h])
        · exact (ih h).imp id (List.mem_cons_of_mem _)
      · exact .inr h

theorem ascending_insertMember (a : κ) {members : List κ}
    (h : members.Pairwise fun a b => SortKey.before a b = true) :
    (insertMember a members).Pairwise fun a b => SortKey.before a b = true := by
  induction members with
  | nil => exact List.pairwise_singleton _ _
  | cons b rest ih =>
    have after := List.pairwise_cons.mp h
    simp only [insertMember]
    split
    · rename_i first
      refine List.pairwise_cons.mpr ⟨fun c hc => ?_, h⟩
      rcases List.mem_cons.mp hc with rfl | hc
      · exact first
      · exact SortKey.before_trans first (after.1 c hc)
    · split
      · rename_i later
        refine List.pairwise_cons.mpr ⟨fun c hc => ?_, ih after.2⟩
        rcases mem_of_mem_insertMember hc with rfl | hc
        · exact later
        · exact after.1 c hc
      · exact h

def insert (s : SortedSet κ) (a : κ) : SortedSet κ :=
  ⟨insertMember a s.toList, ascending_insertMember a s.ascending⟩

def insertAll (s : SortedSet κ) (members : List κ) : SortedSet κ :=
  members.foldl insert s

def ofList (members : List κ) : SortedSet κ := empty.insertAll members

def contains [DecidableEq κ] (s : SortedSet κ) (a : κ) : Bool :=
  s.toList.any fun b => b = a

def filter (p : κ → Bool) (s : SortedSet κ) : SortedSet κ :=
  ⟨s.toList.filter p, List.Pairwise.filter _ s.ascending⟩

theorem mem_insertMember {a b : κ} {members : List κ} :
    b ∈ insertMember a members ↔ b = a ∨ b ∈ members := by
  refine ⟨mem_of_mem_insertMember, ?_⟩
  induction members with
  | nil => simp [insertMember]
  | cons c rest ih =>
    intro member
    simp only [insertMember]
    split
    · simpa using member
    · rename_i notFirst
      split
      · rcases member with rfl | member
        · exact List.mem_cons_of_mem _ (ih (.inl rfl))
        · rcases List.mem_cons.mp member with rfl | member
          · exact List.mem_cons_self
          · exact List.mem_cons_of_mem _ (ih (.inr member))
      · rename_i notLater
        have same : a = c :=
          SortKey.eq_of_not_before (by simpa using notFirst) (by simpa using notLater)
        rcases member with rfl | member
        · exact same ▸ List.mem_cons_self
        · exact member

theorem mem_insert {s : SortedSet κ} {a b : κ} : b ∈ (s.insert a).toList ↔ b = a ∨ b ∈ s.toList :=
  mem_insertMember

theorem isEmpty_iff {s : SortedSet κ} : s.isEmpty = true ↔ ∀ a, a ∉ s.toList := by
  unfold isEmpty
  rw [List.isEmpty_iff, List.eq_nil_iff_forall_not_mem]

theorem mem_insertAll (members : List κ) (s : SortedSet κ) {b : κ} :
    b ∈ (s.insertAll members).toList ↔ b ∈ members ∨ b ∈ s.toList := by
  unfold insertAll
  induction members generalizing s with
  | nil => simp
  | cons a rest ih =>
    rw [List.foldl_cons, ih, insert, mem_insertMember, List.mem_cons]
    constructor
    · rintro (later | first | known)
      · exact .inl (.inr later)
      · exact .inl (.inl first)
      · exact .inr known
    · rintro ((first | later) | known)
      · exact .inr (.inl first)
      · exact .inl later
      · exact .inr (.inr known)

theorem mem_ofList {members : List κ} {b : κ} : b ∈ (ofList members).toList ↔ b ∈ members := by
  unfold ofList
  rw [mem_insertAll]
  simp [empty]

theorem ascending_ext {as bs : List κ} (ha : as.Pairwise fun a b => SortKey.before a b = true)
    (hb : bs.Pairwise fun a b => SortKey.before a b = true) (same : ∀ c, c ∈ as ↔ c ∈ bs) :
    as = bs := by
  induction as generalizing bs with
  | nil =>
    cases bs with
    | nil => rfl
    | cons b bs => exact absurd ((same b).mpr List.mem_cons_self) List.not_mem_nil
  | cons a as ih =>
    cases bs with
    | nil => exact absurd ((same a).mp List.mem_cons_self) List.not_mem_nil
    | cons b bs =>
      obtain ⟨firstA, restA⟩ := List.pairwise_cons.mp ha
      obtain ⟨firstB, restB⟩ := List.pairwise_cons.mp hb
      have heads : a = b := by
        rcases List.mem_cons.mp ((same a).mp List.mem_cons_self) with rfl | later
        · rfl
        · rcases List.mem_cons.mp ((same b).mpr List.mem_cons_self) with rfl | later'
          · rfl
          · have clash := SortKey.not_before_of_before (firstA b later')
            rw [firstB a later] at clash
            cases clash
      subst heads
      have tails : as = bs := by
        apply ih restA restB
        intro c
        constructor
        · intro member
          have apart := SortKey.ne_of_before (firstA c member)
          exact (List.mem_cons.mp ((same c).mp (List.mem_cons_of_mem _ member))).resolve_left
            apart.symm
        · intro member
          have apart := SortKey.ne_of_before (firstB c member)
          exact (List.mem_cons.mp ((same c).mpr (List.mem_cons_of_mem _ member))).resolve_left
            apart.symm
      rw [tails]

theorem ext_mem {s t : SortedSet κ} (same : ∀ a, a ∈ s.toList ↔ a ∈ t.toList) : s = t :=
  ext (ascending_ext s.ascending t.ascending same)

theorem ofList_toList (s : SortedSet κ) : ofList s.toList = s := ext_mem fun _ => mem_ofList

end SortedSet

end CulpritFinding
