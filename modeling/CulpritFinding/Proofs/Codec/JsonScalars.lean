import CulpritFinding.Json.Printer
import CulpritFinding.Json.Reader
import CulpritFinding.Proofs.Codec.Digits

namespace CulpritFinding

namespace Json

section Texts

theorem isHalf_toNat (c : Char) : isHalf c.toNat = false := by
  have valid : c.toNat < 0xD800 ∨ 0xDFFF < c.toNat ∧ c.toNat < 0x110000 := c.valid
  unfold isHalf isHighUnit isLowUnit
  simp only [Bool.or_eq_false_iff, Bool.and_eq_false_iff, decide_eq_false_iff_not]
  omega

theorem joinPairs?_toNat (cs : List Char) : joinPairs? (cs.map Char.toNat) = some cs := by
  induction cs with
  | nil => rfl
  | cons c rest ih =>
    have whole := isHalf_toNat c
    have low : isHighUnit c.toNat = false := (Bool.or_eq_false_iff.mp whole).1
    cases rest with
    | nil =>
      simp only [List.map_cons, List.map_nil, joinPairs?, whole, Bool.false_eq_true, if_false,
        Char.ofNat_toNat]
    | cons c' rest =>
      rw [List.map_cons] at ih
      simp only [List.map_cons, joinPairs?, low, whole, Bool.false_and, Bool.false_eq_true,
        if_false, ih, Option.map_some, Char.ofNat_toNat]

theorem readUnits?_letter {letter c : Char} (known : escapeLetter? letter = some c)
    (cs : List Char) :
    readUnits? ('\\' :: letter :: cs) = (readUnits? cs).map fun r => (c.toNat :: r.1, r.2) := by
  rw [readUnits?]
  · rw [known]
    cases readUnits? cs <;> rfl
  · rintro a b c d rest rfl
    cases known

theorem readUnits?_plain {c : Char} (quote : c ≠ '"') (backslash : c ≠ '\\')
    (printed : ¬ c.toNat < 32) (cs : List Char) :
    readUnits? (c :: cs) = (readUnits? cs).map fun r => (c.toNat :: r.1, r.2) := by
  rw [readUnits?]
  · rw [if_neg (by simp [backslash, printed])]
    cases readUnits? cs <;> rfl
  · exact quote
  · rintro a b c d rest rfl
    exact absurd rfl backslash
  · rintro letter rest rfl
    exact absurd rfl backslash

theorem readUnits?_control {n : Nat} (small : n < 16 ^ 4) (cs : List Char) :
    readUnits? ('\\' :: 'u' :: (hexDigits 4 n ++ cs)) =
      (readUnits? cs).map fun r => (n :: r.1, r.2) := by
  have value := hexNumber?_hexDigits 4 n
  rw [Nat.mod_eq_of_lt small] at value
  obtain ⟨a, b, c, d, digits⟩ : ∃ a b c d, hexDigits 4 n = [a, b, c, d] := ⟨_, _, _, _, rfl⟩
  rw [digits] at value ⊢
  show readUnits? ('\\' :: 'u' :: a :: b :: c :: d :: cs) = _
  rw [readUnits?, value]
  cases readUnits? cs <;> rfl

theorem readUnits?_escapedChar (c : Char) (cs : List Char) :
    readUnits? (escapedChar c ++ cs) =
      (readUnits? cs).map fun r => (c.toNat :: r.1, r.2) := by
  unfold escapedChar
  split
  · rename_i quote
    subst quote
    exact readUnits?_letter rfl cs
  split
  · rename_i backslash
    subst backslash
    exact readUnits?_letter rfl cs
  split
  · rename_i lineFeed
    subst lineFeed
    exact readUnits?_letter rfl cs
  split
  · rename_i carriageReturn
    subst carriageReturn
    exact readUnits?_letter rfl cs
  split
  · rename_i tab
    subst tab
    exact readUnits?_letter rfl cs
  split
  · rename_i control
    exact readUnits?_control (by omega) cs
  · rename_i quote backslash _ _ _ printed
    exact readUnits?_plain quote backslash printed cs

theorem readUnits?_escaped (cs rest : List Char) :
    readUnits? (cs.flatMap escapedChar ++ '"' :: rest) = some (cs.map Char.toNat, rest) := by
  induction cs with
  | nil => rfl
  | cons c cs ih =>
    rw [List.flatMap_cons, List.append_assoc, readUnits?_escapedChar, ih]
    rfl

theorem readText?_quoted (s : String) (rest : List Char) :
    readText? (s.toList.flatMap escapedChar ++ '"' :: rest) = some (some s, rest) := by
  unfold readText?
  rw [readUnits?_escaped, Option.map_some, joinPairs?_toNat, Option.map_some, String.ofList_toList]

end Texts

section Numbers

theorem appendDigits_of_lt {ds : List Char} {n : Nat}
    (fits : ds.foldl (fun n c => n * 10 + (c.toNat - 48)) n < limit64) :
    appendDigits n ds = (ds.foldl (fun n c => n * 10 + (c.toNat - 48)) n, []) := by
  have grows : ∀ (ds : List Char) n, n ≤ ds.foldl (fun n c => n * 10 + (c.toNat - 48)) n := by
    intro ds
    induction ds with
    | nil => exact fun n => Nat.le_refl n
    | cons c ds ih =>
      intro n
      have := ih (n * 10 + (c.toNat - 48))
      rw [List.foldl_cons]
      omega
  induction ds generalizing n with
  | nil => rfl
  | cons c ds ih =>
    have shorter : n * 10 + (c.toNat - 48) < limit64 := Nat.lt_of_le_of_lt (grows ds _) fits
    rw [appendDigits, if_pos shorter]
    exact ih fits

theorem ofDigits?_toDigits {n : Nat} (fits : n < limit64) (negative : Bool)
    (whole : JsonNumber.isWhole negative n = true) :
    JsonNumber.ofDigits? negative (Nat.toDigits 10 n) [] none =
      some (.whole (if negative then -n else n)) := by
  have value : (Nat.toDigits 10 n).foldl (fun n c => n * 10 + (c.toNat - 48)) 0 = n :=
    digitsValue_toDigits n
  have kept : appendDigits 0 (Nat.toDigits 10 n) = (n, []) := by
    rw [appendDigits_of_lt (value.symm ▸ fits), value]
  unfold JsonNumber.ofDigits?
  rw [kept]
  simp only [appendDigits, List.isEmpty_nil, Option.isNone_none, whole, Bool.and_self, if_true]
  rfl

def Delimited (rest : List Char) : Prop := ∀ c ∈ rest.head?, c = ',' ∨ c = ']' ∨ c = '\x7d'

theorem Delimited.cases {rest : List Char} (delimited : Delimited rest) :
    rest = [] ∨ ∃ c after, rest = c :: after ∧ (c = ',' ∨ c = ']' ∨ c = '\x7d') := by
  cases rest with
  | nil => exact .inl rfl
  | cons c after => exact .inr ⟨c, after, rfl, delimited c rfl⟩

theorem Delimited.endsNumber {rest : List Char} (delimited : Delimited rest) :
    EndsNumber rest := by
  intro c first
  rcases delimited c first with rfl | rfl | rfl <;> decide

theorem readFraction?_delimited {rest : List Char} (delimited : Delimited rest) :
    readFraction? rest = some ([], rest) := by
  rcases delimited.cases with rfl | ⟨c, after, rfl, rfl | rfl | rfl⟩ <;> rfl

theorem readExponent?_delimited {rest : List Char} (delimited : Delimited rest) :
    readExponent? rest = some (none, rest) := by
  rcases delimited.cases with rfl | ⟨c, after, rfl, rfl | rfl | rfl⟩ <;> rfl

theorem readNumber?_toDigits (negative : Bool) {n : Nat} (fits : n < limit64)
    (whole : JsonNumber.isWhole negative n = true) {cs rest : List Char}
    (sign : readSign cs = (negative, Nat.toDigits 10 n ++ rest)) (delimited : Delimited rest) :
    readNumber? cs = some (some (.whole (if negative then -n else n)), rest) := by
  have ints : (Nat.toDigits 10 n ++ rest).takeWhile isAsciiDigit = Nat.toDigits 10 n :=
    takeWhile_digits isAsciiDigit_of_mem_toDigits delimited.endsNumber
  have usual : ((Nat.toDigits 10 n).isEmpty || (decide ((Nat.toDigits 10 n).length > 1) &&
      decide ((Nat.toDigits 10 n).head? = some '0'))) = false := by
    simp only [Bool.or_eq_false_iff, Bool.and_eq_false_iff, decide_eq_false_iff_not,
      List.isEmpty_eq_false_iff]
    refine ⟨Nat.toDigits_ne_nil, ?_⟩
    by_cases zero : (Nat.toDigits 10 n).head? = some '0'
    · rw [eq_zero_of_head?_toDigits zero]
      exact .inl (by decide)
    · exact .inr zero
  unfold readNumber?
  simp only [sign, ints, usual, Bool.false_eq_true, if_false, List.drop_left,
    readFraction?_delimited delimited, readExponent?_delimited delimited, Option.bind_eq_bind,
    Option.bind_some, ofDigits?_toDigits fits negative whole]
  rfl

theorem readSign_digit {c : Char} (digit : isAsciiDigit c = true) (rest : List Char) :
    readSign (c :: rest) = (false, c :: rest) := by
  unfold readSign
  split
  · rename_i same
    obtain ⟨rfl, -⟩ := List.cons.inj same
    exact absurd digit (by decide)
  · rfl

theorem exists_toDigits_eq_cons (n : Nat) :
    ∃ c rest, Nat.toDigits 10 n = c :: rest ∧ isAsciiDigit c = true := by
  obtain ⟨c, rest, digits⟩ := List.exists_cons_of_ne_nil (Nat.toDigits_ne_nil (n := n) (b := 10))
  exact ⟨c, rest, digits, isAsciiDigit_of_mem_toDigits c (digits ▸ List.mem_cons_self)⟩

theorem readNumber?_intText {n : Int} (low : -9223372036854775808 ≤ n) (high : n < limit64)
    {rest : List Char} (delimited : Delimited rest) :
    readNumber? ((intText n).toList ++ rest) = some (some (.whole n), rest) := by
  cases n with
  | ofNat n =>
    have fits : n < limit64 := Int.ofNat_lt.mp high
    obtain ⟨c, ds, digits, digit⟩ := exists_toDigits_eq_cons n
    refine readNumber?_toDigits false fits rfl ?_ delimited
    unfold intText natText
    rw [String.toList_ofList, digits, List.cons_append]
    exact readSign_digit digit _
  | negSucc n =>
    have fits : n + 1 < limit64 := by
      unfold limit64
      omega
    have whole : JsonNumber.isWhole true (n + 1) = true := by
      unfold JsonNumber.isWhole
      simp only [Bool.not_true, Bool.false_or, Bool.and_eq_true, decide_eq_true_eq]
      omega
    refine readNumber?_toDigits true fits whole ?_ delimited
    unfold intText natText
    simp only [String.toList_append, String.toList_ofList]
    rfl

end Numbers

end Json

end CulpritFinding
