import CulpritFinding.GroupId
import CulpritFinding.Proofs.Codec.Digits

namespace CulpritFinding

theorem hexDigit_ne_brace : ∀ digit < 16, hexDigit digit ≠ '\x7b' := by
  decide

theorem hexDigit_toLower_ne : ∀ digit < 16, (hexDigit digit).toLower ≠ 'u' := by
  decide

namespace GroupId

theorem joinParts?_hyphenated {a b c d e : List Char} (a8 : a.length = 8) (b4 : b.length = 4)
    (c4 : c.length = 4) (d4 : d.length = 4) (e12 : e.length = 12) :
    joinParts? (a ++ '-' :: b ++ '-' :: c ++ '-' :: d ++ '-' :: e) =
      some (a ++ b ++ c ++ d ++ e) := by
  unfold joinParts?
  rw [if_pos (by simp [List.getElem?_append, a8, b4, c4, d4, e12])]
  simp [List.drop_append, List.drop_of_length_le, a8, b4, c4, d4]

theorem joinParts?_chars (id : GroupId) :
    joinParts? id.chars = some (hexDigits 32 id.bits.toNat) := by
  have length := length_hexDigits 32 id.bits.toNat
  unfold chars
  dsimp only
  rw [joinParts?_hyphenated (by simp [length]) (by simp [length]) (by simp [length])
    (by simp [length]) (by simp [length])]
  generalize hexDigits 32 id.bits.toNat = ds
  have split : ∀ n k, (ds.drop n).take k ++ ds.drop (n + k) = ds.drop n := by
    intro n k
    rw [← List.drop_drop, List.take_append_drop]
  simp only [List.append_assoc, split 16 4, split 12 4, split 8 4, List.take_append_drop]

theorem exists_chars_eq_cons (id : GroupId) :
    ∃ digit < 16, ∃ rest, id.chars = hexDigit digit :: rest := by
  have length := length_hexDigits 32 id.bits.toNat
  obtain ⟨c, ds, digits⟩ := List.exists_cons_of_length_pos (length ▸ (by decide : 0 < 32))
  obtain ⟨digit, small, rfl⟩ := exists_of_mem_hexDigits (digits ▸ List.mem_cons_self)
  unfold chars
  rw [digits]
  exact ⟨digit, small, _, rfl⟩

theorem afterResourcePrefix?_of_digit {digit : Nat} (small : digit < 16) (rest : List Char) :
    afterResourcePrefix? (hexDigit digit :: rest) = none := by
  refine if_neg fun same => ?_
  have first : some (hexDigit digit).toLower = some 'u' := congrArg List.head? same
  exact hexDigit_toLower_ne digit small (Option.some.inj first)

theorem parse?_text (id : GroupId) : parse? id.text = some id := by
  have length : id.chars.length = 36 := by simp [chars, length_hexDigits]
  have joined := joinParts?_chars id
  obtain ⟨digit, small, rest, first⟩ := id.exists_chars_eq_cons
  unfold parse? text
  rw [String.toList_ofList]
  unfold parseChars?
  rw [first] at length joined ⊢
  split
  · rename_i inner brace
    exact absurd (List.cons.inj brace).1 (hexDigit_ne_brace digit small)
  · rw [if_neg (by omega), afterResourcePrefix?_of_digit small, Option.getD_none, joined]
    have fits : id.bits.toNat < 16 ^ 32 := Nat.lt_of_lt_of_eq id.bits.isLt (by decide)
    simp only [Option.bind_eq_bind, Option.bind_some, hexNumber?_hexDigits]
    rw [Nat.mod_eq_of_lt fits, BitVec.ofNat_toNat, BitVec.setWidth_eq]
    rfl

end GroupId

end CulpritFinding
