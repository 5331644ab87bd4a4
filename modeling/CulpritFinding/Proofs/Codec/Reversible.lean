import CulpritFinding.Json.Format
import CulpritFinding.Proofs.Codec.GroupIds
import CulpritFinding.Proofs.Codec.Instants
import CulpritFinding.Proofs.Codec.JsonText

namespace CulpritFinding

namespace Format

variable {α β κ ν : Type}

def encode (f : Format α) (v : α) : String := (f.write v).compact

def decode? (f : Format α) (s : String) : Option α := (Json.parse? s).bind f.read?

/-- A format in which nothing is lost: the values that fit are written in full and read back, and no
other values are read. -/
structure Reversible (f : Format α) (Fits : α → Prop) : Prop where
  plain : ∀ v, Fits v → (f.write v).Plain
  read_write : ∀ v, Fits v → f.read? (f.write v) = some v
  fits_of_read : ∀ j v, f.read? j = some v → Fits v

/-- A reversible format that never writes `null`, which can stand for an absent value then. -/
structure Definite (f : Format α) (Fits : α → Prop) : Prop extends Reversible f Fits where
  write_ne_null : ∀ v, f.write v ≠ .null

/-- Reading undoes writing. A value that fits is read back from its text. A value that is read from
any text fits, and when its own text is read again, the value and its text stay the same. -/
structure RoundTrips (f : Format α) (Fits : α → Prop) : Prop where
  decode_encode : ∀ v, Fits v → f.decode? (f.encode v) = some v
  decode_again : ∀ s v, f.decode? s = some v →
    Fits v ∧ ∃ w, f.decode? (f.encode v) = some w ∧ w = v ∧ f.encode w = f.encode v

theorem Definite.roundTrips {f : Format α} {Fits : α → Prop} (definite : f.Definite Fits) :
    f.RoundTrips Fits := by
  have decode_encode : ∀ v, Fits v → f.decode? (f.encode v) = some v := by
    intro v fits
    unfold decode? encode
    rw [Json.parse?_compact (definite.plain v fits), Option.bind_some]
    exact definite.read_write v fits
  refine ⟨decode_encode, fun s v read => ?_⟩
  obtain ⟨j, -, read⟩ := Option.bind_eq_some_iff.mp read
  have fits := definite.fits_of_read j v read
  exact ⟨fits, v, decode_encode v fits, rfl, rfl⟩

section Plain

theorem text_definite : text.Definite fun _ => True where
  plain v _ := .text v
  read_write _ _ := rfl
  fits_of_read _ _ _ := trivial
  write_ne_null _ h := by cases h

theorem flag_definite : flag.Definite fun _ => True where
  plain v _ := .bool v
  read_write _ _ := rfl
  fits_of_read _ _ _ := trivial
  write_ne_null _ h := by cases h

theorem readWhole?_eq_some {fits : Int → Bool} {j : Json} {n : Int}
    (read : readWhole? fits j = some n) : fits n = true := by
  unfold readWhole? at read
  split at read
  · split at read
    · rename_i fits
      cases read
      exact fits
    · cases read
  · cases read

theorem int64_definite : int64.Definite fun n => fitsInt64 n = true where
  plain n fits := by
    unfold fitsInt64 at fits
    simp only [Bool.and_eq_true, decide_eq_true_eq] at fits
    refine .whole fits.1 ?_
    unfold limit64
    omega
  read_write n fits := if_pos fits
  fits_of_read _ _ := readWhole?_eq_some
  write_ne_null _ h := by cases h

theorem natBelow_definite {bound : Nat} (most : bound ≤ limit64) :
    (natBelow bound).Definite (· < bound) where
  plain n fits := .whole (by omega) (Int.ofNat_lt.mpr (Nat.lt_of_lt_of_le fits most))
  read_write n fits := by
    show (readWhole? _ (.number (.whole n))).map Int.toNat = some n
    have within : (0 ≤ (n : Int) && (n : Int) < bound) = true := by
      simp only [Bool.and_eq_true, decide_eq_true_eq]
      omega
    simp only [readWhole?, within, if_true]
    rfl
  fits_of_read j n read := by
    obtain ⟨m, whole, rfl⟩ := Option.map_eq_some_iff.mp read
    have within := readWhole?_eq_some whole
    simp only [Bool.and_eq_true, decide_eq_true_eq] at within
    omega
  write_ne_null _ h := by cases h

theorem nat32_definite : nat32.Definite (· < limit32) := natBelow_definite (by decide)

theorem nat64_definite : nat64.Definite (· < limit64) := natBelow_definite (Nat.le_refl _)

theorem ofText_definite {write : α → String} {read? : String → Option α} {Fits : α → Prop}
    (read_write : ∀ v, Fits v → read? (write v) = some v)
    (fits_of_read : ∀ s v, read? s = some v → Fits v) : (ofText write read?).Definite Fits where
  plain v _ := .text (write v)
  read_write := read_write
  fits_of_read j v read := by
    simp only [ofText] at read
    split at read
    · exact fits_of_read _ v read
    · cases read
  write_ne_null _ h := by cases h

theorem instant_definite : instant.Definite Instant.Fits :=
  ofText_definite (fun _ fits => Instant.parse?_text fits) fun _ _ => Instant.fits_of_parse?

theorem groupId_definite : groupId.Definite fun _ => True :=
  ofText_definite (fun id _ => GroupId.parse?_text id) fun _ _ _ => trivial

theorem enumWith_definite {isNothing : Json → Bool} {all : List α} {name : α → String}
    (known : ∀ v, named? all name (name v) = some v) :
    (enumWith isNothing all name).Definite fun _ => True where
  plain v _ := .text (name v)
  read_write v _ := known v
  fits_of_read _ _ _ := trivial
  write_ne_null _ h := by cases h

theorem enum_definite {all : List α} {name : α → String}
    (known : ∀ v, named? all name (name v) = some v) : (enum all name).Definite fun _ => True :=
  enumWith_definite known

end Plain

section Collections

variable {f : Format α} {Fits : α → Prop}

theorem option_reversible (definite : f.Definite Fits) :
    f.option.Reversible fun o => ∀ v ∈ o, Fits v where
  plain
    | none, _ => .null
    | some v, fits => definite.plain v (fits v rfl)
  read_write
    | none, _ => rfl
    | some v, fits => by
      show f.option.read? (f.write v) = some (some v)
      simp only [option]
      split
      · rename_i absent
        exact absurd absent (definite.write_ne_null v)
      · rw [definite.read_write v (fits v rfl), Option.map_some]
  fits_of_read j o read := by
    simp only [option] at read
    split at read
    · cases read
      rintro _ ⟨⟩
    · obtain ⟨v, present, rfl⟩ := Option.map_eq_some_iff.mp read
      rintro _ ⟨⟩
      exact definite.fits_of_read j v present

theorem forall_of_mapM_eq_some {read? : β → Option α} {Fits : α → Prop}
    (fits_of_read : ∀ j v, read? j = some v → Fits v) {js : List β} {vs : List α}
    (read : js.mapM read? = some vs) : ∀ v ∈ vs, Fits v := by
  induction js generalizing vs with
  | nil =>
    cases read
    exact fun _ member => absurd member List.not_mem_nil
  | cons j js ih =>
    rw [List.mapM_cons] at read
    obtain ⟨v, first, read⟩ := Option.bind_eq_some_iff.mp read
    obtain ⟨others, rest, read⟩ := Option.bind_eq_some_iff.mp read
    cases read
    exact List.forall_mem_cons.mpr ⟨fits_of_read j v first, ih rest⟩

theorem list_definite (definite : f.Definite Fits) :
    f.list.Definite fun vs => ∀ v ∈ vs, Fits v where
  plain vs fits := by
    refine .array fun j written => ?_
    obtain ⟨v, member, rfl⟩ := List.mem_map.mp written
    exact definite.plain v (fits v member)
  read_write vs fits := mapM_map_eq_some fun v member => definite.read_write v (fits v member)
  fits_of_read j vs read := by
    simp only [list] at read
    split at read
    · exact forall_of_mapM_eq_some definite.fits_of_read read
    · cases read
  write_ne_null _ h := by cases h

theorem set_definite [SortKey α] (definite : f.Definite Fits) :
    f.set.Definite fun s => ∀ v ∈ s.toList, Fits v where
  plain s fits := (list_definite definite).plain s.toList fits
  read_write s fits := by
    show (f.list.read? (f.list.write s.toList)).map SortedSet.ofList = some s
    rw [(list_definite definite).read_write s.toList fits, Option.map_some,
      SortedSet.ofList_toList]
  fits_of_read j s read := by
    obtain ⟨vs, listed, rfl⟩ := Option.map_eq_some_iff.mp read
    intro v member
    exact (list_definite definite).fits_of_read j vs listed v (SortedSet.mem_ofList.mp member)
  write_ne_null _ h := by cases h

theorem pair_definite {g : Format β} {Fits' : β → Prop} (first : f.Definite Fits)
    (second : g.Definite Fits') : (f.pair g).Definite fun v => Fits v.1 ∧ Fits' v.2 where
  plain v fits := by
    refine .array (List.forall_mem_cons.mpr ⟨first.plain v.1 fits.1, ?_⟩)
    exact List.forall_mem_singleton.mpr (second.plain v.2 fits.2)
  read_write v fits := by
    show (do return (← f.read? (f.write v.1), ← g.read? (g.write v.2))) = some v
    rw [first.read_write v.1 fits.1, second.read_write v.2 fits.2]
    rfl
  fits_of_read j v read := by
    simp only [pair] at read
    split at read
    · obtain ⟨v₁, read₁, read⟩ := Option.bind_eq_some_iff.mp read
      obtain ⟨v₂, read₂, read⟩ := Option.bind_eq_some_iff.mp read
      cases read
      exact ⟨first.fits_of_read _ v₁ read₁, second.fits_of_read _ v₂ read₂⟩
    · cases read
  write_ne_null _ h := by cases h

theorem mapBy_definite [SortKey κ] [DecidableEq κ] {name : κ → String} {key? : String → Option κ}
    (known : ∀ k, key? (name k) = some k) (definite : f.Definite Fits) :
    (mapBy name key? f).Definite fun m => ∀ e ∈ m.toList, Fits e.2 where
  plain m fits := by
    refine .object fun field written => ?_
    obtain ⟨e, member, rfl⟩ := List.mem_map.mp written
    exact definite.plain e.2 (fits e member)
  read_write m fits := by
    have entries : (m.toList.map fun e => (name e.1, f.write e.2)).mapM
        (fun e : String × Json => do return (← key? e.1, ← f.read? e.2)) = some m.toList := by
      refine mapM_map_eq_some fun e member => ?_
      simp only [known, definite.read_write e.2 (fits e member)]
      rfl
    show Option.map SortedMap.ofList _ = some m
    rw [entries, Option.map_some, SortedMap.ofList_toList]
  fits_of_read j m read := by
    simp only [mapBy] at read
    split at read
    · obtain ⟨entries, listed, rfl⟩ := Option.map_eq_some_iff.mp read
      have fits : ∀ e ∈ entries, Fits e.2 := by
        refine forall_of_mapM_eq_some (fun field e entry => ?_) listed
        obtain ⟨k, -, entry⟩ := Option.bind_eq_some_iff.mp entry
        obtain ⟨v, value, same⟩ := Option.bind_eq_some_iff.mp entry
        cases same
        exact definite.fits_of_read field.2 v value
      exact fun e member => fits e (SortedMap.mem_of_mem_ofList member)
    · cases read
  write_ne_null _ h := by cases h

theorem map_definite (definite : f.Definite Fits) :
    f.map.Definite fun m => ∀ e ∈ m.toList, Fits e.2 :=
  mapBy_definite (fun _ => rfl) definite

theorem iso_definite (definite : f.Definite Fits) {forth : α → β} {back : β → α}
    (forth_back : ∀ w, forth (back w) = w) (back_forth : ∀ v, back (forth v) = v) :
    (f.iso forth back).Definite fun w => Fits (back w) where
  plain w fits := definite.plain (back w) fits
  read_write w fits := by
    show (f.read? (f.write (back w))).map forth = some w
    rw [definite.read_write (back w) fits, Option.map_some, forth_back]
  fits_of_read j w read := by
    obtain ⟨v, inner, rfl⟩ := Option.map_eq_some_iff.mp read
    rw [back_forth]
    exact definite.fits_of_read j v inner
  write_ne_null w := definite.write_ne_null (back w)

end Collections

end Format

end CulpritFinding
