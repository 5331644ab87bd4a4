import CulpritFinding.Text.Hex
import CulpritFinding.Text.Number
import Mathlib.Algebra.Group.Nat.Defs

namespace CulpritFinding

theorem isAsciiDigit_iff {c : Char} : isAsciiDigit c = true ↔ 48 ≤ c.toNat ∧ c.toNat ≤ 57 := by
  unfold isAsciiDigit
  simp only [Bool.and_eq_true, decide_eq_true_eq, Char.le_def, UInt32.le_iff_toNat_le]
  rfl

def EndsNumber (rest : List Char) : Prop := ∀ c ∈ rest.head?, isAsciiDigit c = false

theorem endsNumber_nil : EndsNumber [] := by
  rintro c ⟨⟩

theorem endsNumber_cons {c : Char} (other : isAsciiDigit c = false) (rest : List Char) :
    EndsNumber (c :: rest) := by
  rintro _ ⟨⟩
  exact other

theorem takeWhile_of_endsNumber {rest : List Char} (ends : EndsNumber rest) :
    rest.takeWhile isAsciiDigit = [] := by
  cases rest with
  | nil => rfl
  | cons c rest => rw [List.takeWhile_cons, ends c rfl, if_neg Bool.false_ne_true]

theorem takeWhile_digits {ds rest : List Char} (digits : ∀ c ∈ ds, isAsciiDigit c = true)
    (ends : EndsNumber rest) : (ds ++ rest).takeWhile isAsciiDigit = ds := by
  rw [List.takeWhile_append_of_pos digits, takeWhile_of_endsNumber ends, List.append_nil]

theorem readDigits?_append {ds rest : List Char} {most : Nat}
    (digits : ∀ c ∈ ds, isAsciiDigit c = true) (some_digit : ds ≠ []) (fits : ds.length ≤ most)
    (ends : ds.length = most ∨ EndsNumber rest) :
    readDigits? most (ds ++ rest) = some (digitsValue ds, rest) := by
  have taken : (ds ++ rest).take most = ds ++ rest.take (most - ds.length) := by
    rw [List.take_append, List.take_of_length_le fits]
  have next : EndsNumber (rest.take (most - ds.length)) := by
    rcases ends with full | ends
    · rw [full, Nat.sub_self, List.take_zero]
      exact endsNumber_nil
    · intro c first
      rw [List.head?_take] at first
      split at first
      · cases first
      · exact ends c first
  have read : ((ds ++ rest).take most).takeWhile isAsciiDigit = ds := by
    rw [taken, takeWhile_digits digits next]
  unfold readDigits?
  simp only [read, List.isEmpty_iff, some_digit, if_false, List.drop_left]

section Decimal

theorem toNat_lastDigit (n : Nat) : (lastDigit n).toNat = 48 + n % 10 := by
  have valid : (48 + n % 10).isValidChar := .inl (by omega)
  unfold lastDigit Char.ofNat
  rw [dif_pos valid]
  rfl

theorem isAsciiDigit_lastDigit (n : Nat) : isAsciiDigit (lastDigit n) = true := by
  rw [isAsciiDigit_iff, toNat_lastDigit]
  omega

theorem length_fixedDigits (width n : Nat) : (fixedDigits width n).length = width := by
  induction width generalizing n with
  | zero => rfl
  | succ width ih => rw [fixedDigits, List.length_append, ih, List.length_singleton]

theorem isAsciiDigit_of_mem_fixedDigits {width n : Nat} :
    ∀ c ∈ fixedDigits width n, isAsciiDigit c = true := by
  induction width generalizing n with
  | zero => exact List.forall_mem_nil _
  | succ width ih =>
    intro c member
    rcases List.mem_append.mp member with earlier | last
    · exact ih c earlier
    · rw [List.mem_singleton.mp last]
      exact isAsciiDigit_lastDigit n

theorem digitsValue_append (ds : List Char) (c : Char) :
    digitsValue (ds ++ [c]) = digitsValue ds * 10 + (c.toNat - 48) := by
  unfold digitsValue
  rw [List.foldl_append, List.foldl_cons, List.foldl_nil]

theorem digitsValue_lt {ds : List Char} (digits : ∀ c ∈ ds, isAsciiDigit c = true) :
    digitsValue ds < 10 ^ ds.length := by
  have bound : ∀ n, ds.foldl (fun n c => n * 10 + (c.toNat - 48)) n < (n + 1) * 10 ^ ds.length := by
    induction ds with
    | nil => intro n; simp
    | cons c ds ih =>
      intro n
      obtain ⟨digit, rest⟩ := List.forall_mem_cons.mp digits
      have last := isAsciiDigit_iff.mp digit
      have less : n * 10 + (c.toNat - 48) + 1 ≤ (n + 1) * 10 := by omega
      calc
        _ < (n * 10 + (c.toNat - 48) + 1) * 10 ^ ds.length := ih rest _
        _ ≤ (n + 1) * 10 * 10 ^ ds.length := Nat.mul_le_mul_right _ less
        _ = (n + 1) * 10 ^ (ds.length + 1) := by rw [Nat.pow_succ', Nat.mul_assoc]
  have fromZero := bound 0
  rwa [Nat.zero_add, Nat.one_mul] at fromZero

theorem digitsValue_fixedDigits (width n : Nat) :
    digitsValue (fixedDigits width n) = n % 10 ^ width := by
  induction width generalizing n with
  | zero => rw [Nat.pow_zero, Nat.mod_one]; rfl
  | succ width ih =>
    rw [fixedDigits, digitsValue_append, ih, toNat_lastDigit, Nat.pow_succ', Nat.mod_mul]
    omega

theorem readDigits?_fixedDigits {width n : Nat} (wide : 0 < width) (fits : n < 10 ^ width)
    (rest : List Char) : readDigits? width (fixedDigits width n ++ rest) = some (n, rest) := by
  have length := length_fixedDigits width n
  rw [readDigits?_append isAsciiDigit_of_mem_fixedDigits ?_ (Nat.le_of_eq length) (.inl length),
    digitsValue_fixedDigits, Nat.mod_eq_of_lt fits]
  exact List.ne_nil_of_length_pos (Nat.lt_of_lt_of_eq wide length.symm)

theorem readDigits?_paddedDigits {width n most : Nat} {rest : List Char}
    (fits : (paddedDigits width n).length ≤ most) (ends : EndsNumber rest) :
    readDigits? most (paddedDigits width n ++ rest) = some (n, rest) := by
  have wide : (Nat.toDigits 10 n).length ≤ max width (Nat.toDigits 10 n).length :=
    Nat.le_max_right ..
  have positive : 0 < (Nat.toDigits 10 n).length :=
    List.length_pos_iff.mpr Nat.toDigits_ne_nil
  have small := (Nat.length_toDigits_le_iff (by decide) (Nat.lt_of_lt_of_le positive wide)).mp wide
  have length := length_fixedDigits (max width (Nat.toDigits 10 n).length) n
  unfold paddedDigits at fits ⊢
  rw [readDigits?_append isAsciiDigit_of_mem_fixedDigits ?_ fits (.inr ends),
    digitsValue_fixedDigits, Nat.mod_eq_of_lt small]
  apply List.ne_nil_of_length_pos
  omega

theorem isAsciiDigit_of_mem_toDigits {n : Nat} :
    ∀ c ∈ Nat.toDigits 10 n, isAsciiDigit c = true := by
  intro c member
  have digit := Nat.isDigit_of_mem_toDigits (by decide) (by decide) member
  simp only [Char.isDigit, Bool.and_eq_true, decide_eq_true_eq, ge_iff_le,
    UInt32.le_iff_toNat_le] at digit
  exact isAsciiDigit_iff.mpr digit

theorem digitsValue_toDigits (n : Nat) : digitsValue (Nat.toDigits 10 n) = n := by
  have value := Nat.ofDigitChars_ten_toDigits (n := n)
  rw [Nat.ofDigitChars_eq_foldl] at value
  unfold digitsValue
  simp only [Nat.mul_comm _ 10]
  exact value

theorem eq_zero_of_head?_toDigits {n : Nat} (zero : (Nat.toDigits 10 n).head? = some '0') :
    n = 0 := by
  induction n using Nat.strongRecOn with
  | ind n ih =>
    by_cases small : n < 10
    · rw [Nat.toDigits_of_lt_base small, List.head?_cons, Option.some.injEq] at zero
      exact Nat.digitChar_eq_zero.mp zero
    · have larger : 10 ≤ n := by omega
      obtain ⟨c, rest, digits⟩ := List.exists_cons_of_ne_nil
        (Nat.toDigits_ne_nil (n := n / 10) (b := 10))
      have first : (Nat.toDigits 10 (n / 10)).head? = some '0' := by
        rw [Nat.toDigits_of_base_le (by decide) larger, digits] at zero
        rw [digits]
        exact zero
      have := ih (n / 10) (by omega) first
      omega

end Decimal

section Hexadecimal

theorem hexValue?_hexDigit : ∀ n < 16, hexValue? (hexDigit n) = some n := by
  decide

theorem length_hexDigits (width n : Nat) : (hexDigits width n).length = width := by
  induction width generalizing n with
  | zero => rfl
  | succ width ih => rw [hexDigits, List.length_append, ih, List.length_singleton]

theorem exists_of_mem_hexDigits {width n : Nat} {c : Char} (member : c ∈ hexDigits width n) :
    ∃ digit < 16, c = hexDigit digit := by
  induction width generalizing n with
  | zero => cases member
  | succ width ih =>
    rcases List.mem_append.mp member with earlier | last
    · exact ih earlier
    · exact ⟨n % 16, Nat.mod_lt _ (by decide), List.mem_singleton.mp last⟩

theorem hexNumber?_append (cs : List Char) (c : Char) :
    hexNumber? (cs ++ [c]) = do return (← hexNumber? cs) * 16 + (← hexValue? c) := by
  unfold hexNumber?
  rw [List.foldl_append, List.foldl_cons, List.foldl_nil]

theorem hexNumber?_hexDigits (width n : Nat) :
    hexNumber? (hexDigits width n) = some (n % 16 ^ width) := by
  induction width generalizing n with
  | zero => rw [Nat.pow_zero, Nat.mod_one]; rfl
  | succ width ih =>
    have last := hexValue?_hexDigit (n % 16) (Nat.mod_lt _ (by decide))
    rw [hexDigits, hexNumber?_append, ih, last, Nat.pow_succ', Nat.mod_mul]
    exact congrArg some (by omega)

end Hexadecimal

end CulpritFinding
