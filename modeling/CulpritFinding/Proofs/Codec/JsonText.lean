import CulpritFinding.Proofs.Codec.JsonScalars

namespace CulpritFinding

theorem mapM_map_eq_some {α β : Type} {write : α → β} {read? : β → Option α} {vs : List α}
    (read_write : ∀ v ∈ vs, read? (write v) = some v) : (vs.map write).mapM read? = some vs := by
  induction vs with
  | nil => rfl
  | cons v vs ih =>
    obtain ⟨first, others⟩ := List.forall_mem_cons.mp read_write
    rw [List.map_cons, List.mapM_cons, first, ih others]
    rfl

namespace Json

/-- Values that lose nothing when they are written: their numbers are whole and fit into 64 bits. -/
inductive Plain : Json → Prop
  | null : Plain .null
  | bool (value : Bool) : Plain (.bool value)
  | whole {n : Int} (low : -9223372036854775808 ≤ n) (high : n < limit64) :
      Plain (.number (.whole n))
  | text (value : String) : Plain (.text value)
  | array {items : List Json} (plain : ∀ j ∈ items, j.Plain) : Plain (.array items)
  | object {fields : List (String × Json)} (plain : ∀ f ∈ fields, f.2.Plain) :
      Plain (.object fields)

def OpensValue (cs : List Char) : Prop :=
  ∃ c rest, cs = c :: rest ∧ isGap c = false ∧ c ≠ ']'

theorem OpensValue.append {cs : List Char} (opens : OpensValue cs) (rest : List Char) :
    OpensValue (cs ++ rest) := by
  obtain ⟨c, more, rfl, first⟩ := opens
  exact ⟨c, more ++ rest, rfl, first⟩

theorem skipGap_cons {c : Char} (visible : isGap c = false) (rest : List Char) :
    skipGap (c :: rest) = c :: rest := by
  unfold skipGap
  rw [List.dropWhile_cons, visible, if_neg Bool.false_ne_true]

theorem OpensValue.skipGap {cs : List Char} (opens : OpensValue cs) : skipGap cs = cs := by
  obtain ⟨c, rest, rfl, visible, -⟩ := opens
  exact skipGap_cons visible rest

/-- A value whose text is read back, whatever follows it. Reading the text takes no more fuel than
twice the characters of the text. -/
structure ReadsBack (j : Json) : Prop where
  opens : OpensValue j.compact.toList
  read : ∀ fuel rest, 2 * j.compact.toList.length ≤ fuel → Delimited rest →
    readValue? fuel (j.compact.toList ++ rest) = some (j, rest)

theorem delimited_cons {c : Char} (delimiter : c = ',' ∨ c = ']' ∨ c = '\x7d')
    (rest : List Char) : Delimited (c :: rest) := by
  rintro _ ⟨⟩
  exact delimiter

theorem readItems?_compactItems {j : Json} {items : List Json}
    (readsBack : ∀ i ∈ j :: items, i.ReadsBack) {fuel : Nat}
    (enough : 2 * (compactItems (j :: items)).toList.length + 1 ≤ fuel) (rest : List Char) :
    readItems? fuel ((compactItems (j :: items)).toList ++ ']' :: rest) =
      some (j :: items, rest) := by
  induction items generalizing j fuel with
  | nil =>
    obtain ⟨fuel, rfl⟩ : ∃ less, fuel = less + 1 := ⟨fuel - 1, by omega⟩
    unfold readItems?
    unfold compactItems at enough ⊢
    rw [(readsBack j List.mem_cons_self).read fuel _ (by omega) (delimited_cons (by simp) rest)]
    rfl
  | cons j' items ih =>
    obtain ⟨first, others⟩ := List.forall_mem_cons.mp readsBack
    obtain ⟨fuel, rfl⟩ : ∃ less, fuel = less + 1 := ⟨fuel - 1, by omega⟩
    have comma : (compactItems (j :: j' :: items)).toList =
        j.compact.toList ++ ',' :: (compactItems (j' :: items)).toList := by
      show (j.compact ++ "," ++ compactItems (j' :: items)).toList = _
      simp
    rw [comma, List.length_append, List.length_cons] at enough
    unfold readItems?
    rw [comma, List.append_assoc, List.cons_append,
      first.read fuel _ (by omega) (delimited_cons (by simp) _)]
    simp only [Option.bind_eq_bind, Option.bind_some,
      skipGap_cons (show isGap ',' = false from rfl), ih others (show _ ≤ fuel by omega)]
    rfl

theorem readName?_quoted (name : String) (cs : List Char) :
    readName? ((quoted name).toList ++ ':' :: cs) = some (some name, cs) := by
  unfold readName? quoted
  rw [String.toList_ofList, List.cons_append, List.cons_append, List.append_assoc,
    List.singleton_append, skipGap_cons (by decide)]
  simp only [readText?_quoted, Option.bind_eq_bind, Option.bind_some]
  rfl

theorem readFields?_compactFields {f : String × Json} {fields : List (String × Json)}
    (readsBack : ∀ g ∈ f :: fields, g.2.ReadsBack) {fuel : Nat}
    (enough : 2 * (compactFields (f :: fields)).toList.length + 1 ≤ fuel) (rest : List Char) :
    readFields? fuel ((compactFields (f :: fields)).toList ++ '\x7d' :: rest) =
      some ((f :: fields).map fun f => (some f.1, f.2), rest) := by
  induction fields generalizing f fuel with
  | nil =>
    obtain ⟨fuel, rfl⟩ : ∃ less, fuel = less + 1 := ⟨fuel - 1, by omega⟩
    have text : (compactFields [f]).toList = (quoted f.1).toList ++ ':' :: f.2.compact.toList := by
      show (quoted f.1 ++ ":" ++ f.2.compact).toList = _
      simp
    rw [text, List.length_append, List.length_cons] at enough
    unfold readFields?
    have value := (readsBack f List.mem_cons_self).read fuel ('\x7d' :: rest) (by omega)
      (delimited_cons (by simp) rest)
    rw [text, List.append_assoc, List.cons_append, readName?_quoted]
    simp only [Option.bind_eq_bind, Option.bind_some, value]
    rfl
  | cons f' fields ih =>
    obtain ⟨first, others⟩ := List.forall_mem_cons.mp readsBack
    obtain ⟨fuel, rfl⟩ : ∃ less, fuel = less + 1 := ⟨fuel - 1, by omega⟩
    have text : (compactFields (f :: f' :: fields)).toList = (quoted f.1).toList ++
        ':' :: (f.2.compact.toList ++ ',' :: (compactFields (f' :: fields)).toList) := by
      show (quoted f.1 ++ ":" ++ f.2.compact ++ "," ++ compactFields (f' :: fields)).toList = _
      simp
    rw [text, List.length_append, List.length_cons, List.length_append, List.length_cons] at enough
    unfold readFields?
    have value := first.read fuel
      (',' :: ((compactFields (f' :: fields)).toList ++ '\x7d' :: rest)) (by omega)
      (delimited_cons (by simp) _)
    rw [text, List.append_assoc, List.cons_append, readName?_quoted]
    simp only [Option.bind_eq_bind, Option.bind_some, List.append_assoc, List.cons_append, value,
      skipGap_cons (show isGap ',' = false from rfl), ih others (show _ ≤ fuel by omega)]
    rfl

theorem ofFields_some (fields : List (String × Json)) :
    ofFields (fields.map fun f => (some f.1, f.2)) = .object fields := by
  have all : (fields.map fun f => (some f.1, f.2)).mapM
      (fun f : Option String × Json => f.1.map fun name => (name, f.2)) = some fields :=
    mapM_map_eq_some fun _ _ => rfl
  unfold ofFields
  rw [all]

theorem readValue?_scalar {c : Char} {rest : List Char} (visible : isGap c = false)
    (array : c ≠ '[') (object : c ≠ '\x7b') {fuel : Nat} (enough : 0 < fuel) :
    readValue? fuel (c :: rest) = readScalar? (c :: rest) := by
  obtain ⟨fuel, rfl⟩ : ∃ less, fuel = less + 1 := ⟨fuel - 1, by omega⟩
  unfold readValue?
  rw [skipGap_cons visible]
  split
  · rename_i same
    exact absurd (List.cons.inj same).1 array
  · rename_i same
    exact absurd (List.cons.inj same).1 object
  · rfl

theorem readsBack_of_scalar {j : Json} {c : Char} {cs : List Char}
    (text : j.compact.toList = c :: cs) (visible : isGap c = false) (array : c ≠ '[')
    (object : c ≠ '\x7b') (close : c ≠ ']')
    (read : ∀ rest, Delimited rest → readScalar? (c :: (cs ++ rest)) = some (j, rest)) :
    j.ReadsBack where
  opens := ⟨c, cs, text, visible, close⟩
  read fuel rest enough delimited := by
    rw [text, List.length_cons] at enough
    rw [text, List.cons_append, readValue?_scalar visible array object (by omega)]
    exact read rest delimited

theorem opensValue_compactItems {j : Json} (opens : OpensValue j.compact.toList)
    (items : List Json) : OpensValue (compactItems (j :: items)).toList := by
  cases items with
  | nil => exact opens
  | cons j' items =>
    show OpensValue (j.compact ++ "," ++ compactItems (j' :: items)).toList
    rw [String.toList_append, String.toList_append, List.append_assoc]
    exact opens.append _

theorem readValue?_bracket {cs : List Char} (opens : OpensValue cs) (fuel : Nat) :
    readValue? (fuel + 1) ('[' :: cs) =
      (readItems? fuel cs).map fun r => (array r.1, r.2) := by
  unfold readValue?
  simp only [skipGap_cons (show isGap '[' = false from rfl), opens.skipGap]
  split
  · obtain ⟨c, more, first, -, close⟩ := opens
    exact absurd (List.cons.inj first).1.symm close
  · rfl

theorem readsBack_array {items : List Json} (readsBack : ∀ j ∈ items, j.ReadsBack) :
    (array items).ReadsBack := by
  have text : (array items).compact.toList = '[' :: ((compactItems items).toList ++ [']']) := by
    rw [compact, String.toList_append, String.toList_append]
    simp
  refine ⟨⟨'[', _, text, rfl, by decide⟩, fun fuel rest enough delimited => ?_⟩
  rw [text, List.length_cons, List.length_append, List.length_singleton] at enough
  obtain ⟨fuel, rfl⟩ : ∃ less, fuel = less + 1 := ⟨fuel - 1, by omega⟩
  rw [text, List.cons_append, List.append_assoc, List.singleton_append]
  cases items with
  | nil => rfl
  | cons j items =>
    have opens := opensValue_compactItems (readsBack j List.mem_cons_self).opens items
    rw [readValue?_bracket (opens.append _),
      readItems?_compactItems readsBack (show _ ≤ fuel by omega)]
    rfl

theorem exists_quoted_eq_cons (s : String) : ∃ more, (quoted s).toList = '"' :: more := by
  unfold quoted
  rw [String.toList_ofList]
  exact ⟨_, rfl⟩

theorem exists_compactFields_eq_cons (f : String × Json) (fields : List (String × Json)) :
    ∃ more, (compactFields (f :: fields)).toList = '"' :: more := by
  obtain ⟨more, first⟩ := exists_quoted_eq_cons f.1
  cases fields with
  | nil =>
    refine ⟨more ++ (":" ++ f.2.compact).toList, ?_⟩
    show (quoted f.1 ++ ":" ++ f.2.compact).toList = _
    simp [first]
  | cons f' fields =>
    refine ⟨more ++ (":" ++ f.2.compact ++ "," ++ compactFields (f' :: fields)).toList, ?_⟩
    show (quoted f.1 ++ ":" ++ f.2.compact ++ "," ++ compactFields (f' :: fields)).toList = _
    simp [first]

theorem readsBack_object {fields : List (String × Json)}
    (readsBack : ∀ f ∈ fields, f.2.ReadsBack) : (object fields).ReadsBack := by
  have text : (object fields).compact.toList =
      '\x7b' :: ((compactFields fields).toList ++ ['\x7d']) := by
    rw [compact, String.toList_append, String.toList_append]
    simp
  refine ⟨⟨'\x7b', _, text, rfl, by decide⟩, fun fuel rest enough delimited => ?_⟩
  rw [text, List.length_cons, List.length_append, List.length_singleton] at enough
  obtain ⟨fuel, rfl⟩ : ∃ less, fuel = less + 1 := ⟨fuel - 1, by omega⟩
  rw [text, List.cons_append, List.append_assoc, List.singleton_append]
  cases fields with
  | nil => rfl
  | cons f fields =>
    have read := readFields?_compactFields readsBack (show _ ≤ fuel by omega) rest
    obtain ⟨more, quote⟩ := exists_compactFields_eq_cons f fields
    rw [quote, List.cons_append] at read ⊢
    show (readFields? fuel ('"' :: (more ++ '\x7d' :: rest))).map _ = _
    rw [read, Option.map_some, ofFields_some]

theorem exists_intText_eq_cons (n : Int) :
    ∃ c cs, (intText n).toList = c :: cs ∧ (c = '-' ∨ isAsciiDigit c = true) := by
  cases n with
  | ofNat n =>
    obtain ⟨c, cs, digits, digit⟩ := exists_toDigits_eq_cons n
    exact ⟨c, cs, (String.toList_ofList).trans digits, .inr digit⟩
  | negSucc n =>
    refine ⟨'-', (natText (n + 1)).toList, ?_, .inl rfl⟩
    unfold intText
    rw [String.toList_append]
    rfl

theorem readsBack_whole {n : Int} (low : -9223372036854775808 ≤ n) (high : n < limit64) :
    (number (.whole n)).ReadsBack := by
  obtain ⟨c, cs, text, sign⟩ := exists_intText_eq_cons n
  have other {c' : Char} (apart : c' ≠ '-' ∧ isAsciiDigit c' = false) : c ≠ c' := by
    rintro rfl
    rcases sign with minus | digit
    · exact apart.1 minus
    · exact Bool.false_ne_true (apart.2.symm.trans digit)
  have visible : isGap c = false := by
    unfold isGap
    simp [other (by decide : ' ' ≠ '-' ∧ _), other (by decide : '\t' ≠ '-' ∧ _),
      other (by decide : '\n' ≠ '-' ∧ _), other (by decide : '\r' ≠ '-' ∧ _)]
  refine readsBack_of_scalar text visible (other (by decide)) (other (by decide))
    (other (by decide)) fun rest delimited => ?_
  have read := readNumber?_intText low high delimited
  rw [text, List.cons_append] at read
  unfold readScalar?
  split
  · rename_i same
    exact absurd (List.cons.inj same).1 (other (by decide))
  · rename_i same
    exact absurd (List.cons.inj same).1 (other (by decide))
  · rename_i same
    exact absurd (List.cons.inj same).1 (other (by decide))
  · rename_i same
    exact absurd (List.cons.inj same).1 (other (by decide))
  · rw [read]
    rfl

theorem readsBack_text (s : String) : (text s).ReadsBack := by
  have quotes : (text s).compact.toList = '"' :: (s.toList.flatMap escapedChar ++ ['"']) := by
    rw [compact, quoted, String.toList_ofList]
    rfl
  refine readsBack_of_scalar quotes rfl (by decide) (by decide) (by decide) fun rest _ => ?_
  rw [List.append_assoc, List.singleton_append]
  show (readText? (s.toList.flatMap escapedChar ++ '"' :: rest)).map _ = _
  rw [readText?_quoted]
  rfl

theorem Plain.readsBack {j : Json} (plain : j.Plain) : j.ReadsBack := by
  induction plain with
  | null => exact readsBack_of_scalar rfl rfl (by decide) (by decide) (by decide) fun _ _ => rfl
  | bool value =>
    cases value with
    | true => exact readsBack_of_scalar rfl rfl (by decide) (by decide) (by decide) fun _ _ => rfl
    | false => exact readsBack_of_scalar rfl rfl (by decide) (by decide) (by decide) fun _ _ => rfl
  | whole low high => exact readsBack_whole low high
  | text value => exact readsBack_text value
  | array _ readsBack => exact readsBack_array readsBack
  | object _ readsBack => exact readsBack_object readsBack

/-- The compact text of a plain value is read back. -/
theorem parse?_compact {j : Json} (plain : j.Plain) : parse? j.compact = some j := by
  have read := plain.readsBack.read (2 * j.compact.toList.length + 2) [] (by omega) (by rintro c ⟨⟩)
  rw [List.append_nil] at read
  unfold parse?
  simp only [read, Option.bind_eq_bind, Option.bind_some]
  rfl

end Json

end CulpritFinding
