import CulpritFinding.Proofs.Codec.Reversible

namespace CulpritFinding

namespace Json

theorem fieldsNamed_cons (f : String × Json) (all : List (String × Json)) (name : String) :
    fieldsNamed (f :: all) name =
      if f.1 = name then f.2 :: fieldsNamed all name else fieldsNamed all name := by
  unfold fieldsNamed
  by_cases same : f.1 = name <;> simp [same]

theorem fieldsNamed_eq_nil {all : List (String × Json)} {name : String}
    (absent : name ∉ all.map (·.1)) : fieldsNamed all name = [] := by
  unfold fieldsNamed
  rw [List.map_eq_nil_iff, List.filter_eq_nil_iff]
  intro f member same
  exact absent (of_decide_eq_true same ▸ List.mem_map_of_mem member)

theorem fieldsNamed_of_mem {all : List (String × Json)} (unique : (all.map (·.1)).Nodup) :
    ∀ f ∈ all, fieldsNamed all f.1 = [f.2] := by
  induction all with
  | nil => exact fun _ member => absurd member List.not_mem_nil
  | cons g all ih =>
    obtain ⟨apart, unique⟩ := List.nodup_cons.mp unique
    refine List.forall_mem_cons.mpr ⟨?_, fun f member => ?_⟩
    · rw [fieldsNamed_cons, if_pos rfl, fieldsNamed_eq_nil apart]
    · have different : g.1 ≠ f.1 := fun same => apart (List.mem_map.mpr ⟨f, member, same.symm⟩)
      rw [fieldsNamed_cons, if_neg different, ih unique f member]

end Json

structure Absence.Allows {α : Type} (absence : Absence α) (Fits : α → Prop) : Prop where
  named : ∀ v ∈ absence.whenNamed, Fits v
  inOrder : ∀ v ∈ absence.whenInOrder, Fits v

namespace Absence

variable {α : Type} {Fits : α → Prop}

theorem refused_allows : (refused : Absence α).Allows Fits := ⟨by rintro _ ⟨⟩, by rintro _ ⟨⟩⟩

theorem standsFor_allows {v : α} (fits : Fits v) : (standsFor v).Allows Fits :=
  ⟨by rintro _ ⟨⟩; exact fits, by rintro _ ⟨⟩; exact fits⟩

theorem nameOnly_allows : (nameOnly : Absence (Option α)).Allows fun o => ∀ v ∈ o, Fits v :=
  ⟨by rintro _ ⟨⟩; rintro _ ⟨⟩, by rintro _ ⟨⟩⟩

end Absence

namespace Shape

variable {ρ α β : Type}

/-- A shape in which nothing is lost. It writes fields with some names. A part of a record that fits
is read back from any fields that have these names once, and no other parts are read than those of
which `Read` holds. -/
structure Reversible (s : Shape ρ α) (names : List String) (part : ρ → α) (Fits : ρ → Prop)
    (Read : α → Prop) : Prop where
  names_write : ∀ r, (s.write r).map (·.1) = names
  plain : ∀ r, Fits r → ∀ f ∈ s.write r, f.2.Plain
  read_write : ∀ r, Fits r → ∀ all : List (String × Json),
    (∀ f ∈ s.write r, Json.fieldsNamed all f.1 = [f.2]) →
    s.read? (.named all) = some (part r, .named all)
  read_of_read : ∀ fields v rest, s.read? fields = some (v, rest) → Read v

namespace Reversible

variable {Fits : ρ → Prop} {names : List String}

theorem pure {v : α} {Read : α → Prop} (read : Read v) :
    (Shape.pure v).Reversible [] (fun _ => v) Fits Read where
  names_write _ := rfl
  plain _ _ _ written := absurd written List.not_mem_nil
  read_write _ _ _ _ := rfl
  read_of_read _ _ _ h := by
    cases h
    exact read

theorem field {name : String} {f : Format α} {part : ρ → α} {absence : Absence α}
    {Read : α → Prop} (format : f.Reversible Read) (fits : ∀ r, Fits r → Read (part r))
    (absent : absence.Allows Read) :
    (Shape.field name f part absence).Reversible [name] part Fits Read where
  names_write _ := rfl
  plain r h := List.forall_mem_singleton.mpr (format.plain (part r) (fits r h))
  read_write r h all written := by
    have only := List.forall_mem_singleton.mp written
    simp only [Shape.field, only, format.read_write (part r) (fits r h), Option.map_some]
  read_of_read fields v rest read := by
    simp only [Shape.field] at read
    split at read
    · split at read
      · obtain ⟨_, stands, same⟩ := Option.map_eq_some_iff.mp read
        cases same
        exact absent.named v stands
      · obtain ⟨_, value, same⟩ := Option.map_eq_some_iff.mp read
        cases same
        exact format.fits_of_read _ v value
      · cases read
    · obtain ⟨_, stands, same⟩ := Option.map_eq_some_iff.mp read
      cases same
      exact absent.inOrder v stands
    · obtain ⟨_, value, same⟩ := Option.map_eq_some_iff.mp read
      cases same
      exact format.fits_of_read _ v value

theorem and {s : Shape ρ (α → β)} {t : Shape ρ α} {names' : List String} {function : ρ → α → β}
    {argument : ρ → α} {ReadArgument : α → Prop} {Read : β → Prop}
    (first : s.Reversible names function Fits fun g => ∀ v, ReadArgument v → Read (g v))
    (second : t.Reversible names' argument Fits ReadArgument) :
    (s.and t).Reversible (names ++ names') (fun r => function r (argument r)) Fits Read where
  names_write r := by
    show (s.write r ++ t.write r).map (·.1) = names ++ names'
    rw [List.map_append, first.names_write, second.names_write]
  plain r fits := List.forall_mem_append.mpr ⟨first.plain r fits, second.plain r fits⟩
  read_write r fits all written := by
    obtain ⟨before, after⟩ := List.forall_mem_append.mp written
    simp only [Shape.and, first.read_write r fits all before, second.read_write r fits all after,
      Option.bind_eq_bind, Option.bind_some]
    rfl
  read_of_read fields v rest read := by
    obtain ⟨⟨g, more⟩, function, read⟩ := Option.bind_eq_some_iff.mp read
    obtain ⟨⟨w, last⟩, argument, read⟩ := Option.bind_eq_some_iff.mp read
    cases read
    exact first.read_of_read fields g more function w
      (second.read_of_read more w rest argument)

section Fields

variable {s : Shape ρ (α → β)} {function : ρ → α → β} {name : String} {f : Format α}
variable {part : ρ → α} {ReadArgument : α → Prop} {Read : β → Prop}

theorem required
    (first : s.Reversible names function Fits fun g => ∀ v, ReadArgument v → Read (g v))
    (format : f.Definite ReadArgument)
    (fits : ∀ r, Fits r → ReadArgument (part r) := by simp) :
    (s.required name f part).Reversible (names ++ [name]) (fun r => function r (part r)) Fits
      Read :=
  first.and (field format.toReversible fits Absence.refused_allows)

theorem withDefault {v : α}
    (first : s.Reversible names function Fits fun g => ∀ v, ReadArgument v → Read (g v))
    (format : f.Definite ReadArgument)
    (fits : ∀ r, Fits r → ReadArgument (part r) := by simp) (stands : ReadArgument v := by simp) :
    (s.withDefault name f part v).Reversible (names ++ [name]) (fun r => function r (part r)) Fits
      Read :=
  first.and (field format.toReversible fits (Absence.standsFor_allows stands))

theorem optional {s : Shape ρ (Option α → β)} {function : ρ → Option α → β} {part : ρ → Option α}
    (first : s.Reversible names function Fits fun g =>
      ∀ o, (∀ v ∈ o, ReadArgument v) → Read (g o))
    (format : f.Definite ReadArgument)
    (fits : ∀ r, Fits r → ∀ v ∈ part r, ReadArgument v := by simp) :
    (s.optional name f part).Reversible (names ++ [name]) (fun r => function r (part r)) Fits
      Read :=
  first.and <| field (Format.option_reversible format) fits <|
    Absence.standsFor_allows (by rintro _ ⟨⟩)

end Fields

variable {s : Shape ρ α} {part : ρ → α} {Read : α → Prop}

theorem readAll?_eq_some (shape : s.Reversible names part Fits Read) {fields : Fields} {v : α}
    (read : s.readAll? fields = some v) : Read v := by
  obtain ⟨⟨w, rest⟩, read, complete⟩ := Option.bind_eq_some_iff.mp read
  have same : w = v := by
    dsimp only at complete
    split at complete
    · cases complete
    · exact Option.some.inj complete
  exact same ▸ shape.read_of_read fields w rest read

theorem readAll?_write (shape : s.Reversible names part Fits Read) (unique : names.Nodup) {r : ρ}
    (fits : Fits r) : s.readAll? (.named (s.write r)) = some (part r) := by
  have once : ∀ f ∈ s.write r, Json.fieldsNamed (s.write r) f.1 = [f.2] :=
    Json.fieldsNamed_of_mem ((shape.names_write r).symm ▸ unique)
  unfold readAll?
  rw [shape.read_write r fits _ once]
  rfl

end Reversible

end Shape

namespace Format

theorem record_definite {ρ : Type} {s : Shape ρ ρ} {names : List String} {part : ρ → ρ}
    {Fits : ρ → Prop} (shape : s.Reversible names part Fits Fits) (unique : names.Nodup)
    (whole : ∀ r, part r = r) : (record s).Definite Fits where
  plain r fits := .object (shape.plain r fits)
  read_write r fits := (shape.readAll?_write unique fits).trans (congrArg some (whole r))
  fits_of_read j r read := by
    simp only [record] at read
    split at read
    · exact shape.readAll?_eq_some read
    · exact shape.readAll?_eq_some read
    · cases read
  write_ne_null _ h := by cases h

theorem tagged_definite {α : Type} {tag : String} {write : α → String × List (String × Json)}
    {read? : String → Fields → Option α} {Fits : α → Prop}
    (plain : ∀ v, Fits v → ∀ f ∈ (write v).2, f.2.Plain)
    (untagged : ∀ v, tag ∉ (write v).2.map (·.1))
    (read_write : ∀ v, Fits v → read? (write v).1 (.named (write v).2) = some v)
    (fits_of_read : ∀ name fields v, read? name fields = some v → Fits v) :
    (tagged tag write read?).Definite Fits where
  plain v fits := .object (List.forall_mem_cons.mpr ⟨.text _, plain v fits⟩)
  read_write v fits := by
    have name : Json.fieldsNamed ((tag, .text (write v).1) :: (write v).2) tag =
        [.text (write v).1] := by
      rw [Json.fieldsNamed_cons, if_pos rfl, Json.fieldsNamed_eq_nil (untagged v)]
    have others : ((tag, .text (write v).1) :: (write v).2).filter (fun f => f.1 ≠ tag) =
        (write v).2 := by
      rw [List.filter_cons_of_neg (by simp), List.filter_eq_self]
      intro f member
      refine decide_eq_true fun same => untagged v ?_
      exact same ▸ List.mem_map_of_mem member
    simp only [tagged, name, others]
    exact read_write v fits
  fits_of_read j v read := by
    simp only [tagged] at read
    split at read
    · split at read
      · exact fits_of_read _ _ v read
      · cases read
    · exact fits_of_read _ _ v read
    · cases read
  write_ne_null _ h := by cases h

end Format

end CulpritFinding
