import CulpritFinding.Path
import CulpritFinding.Proofs.Text.Lines
import Mathlib.Data.List.Infix

namespace CulpritFinding

namespace Path

variable {a b long short : List Char}

/-- The names that a path is made of: what stands between its slashes, empty names included. -/
def components (path : List Char) : List (List Char) := splitAtEach '/' path

theorem join_components (path : List Char) : ['/'].intercalate (components path) = path :=
  intercalate_splitAtEach '/' path

theorem components_inj : components a = components b ↔ a = b := by
  refine ⟨fun same => ?_, congrArg components⟩
  rw [← join_components a, same, join_components]

theorem endsBelow_iff : endsBelow long short = true ↔ ∃ front, long = front ++ '/' :: short := by
  unfold endsBelow
  rw [List.isSuffixOf_iff_suffix]
  exact ⟨fun ⟨front, whole⟩ => ⟨front, whole.symm⟩, fun ⟨front, whole⟩ => ⟨front, whole.symm⟩⟩

theorem endsBelow_iff_components :
    endsBelow long short = true ↔ ∃ names ≠ [], components long = names ++ components short := by
  rw [endsBelow_iff]
  constructor
  · rintro ⟨front, rfl⟩
    exact ⟨components front, splitAtEach_ne_nil '/' front, splitAtEach_append ..⟩
  · rintro ⟨names, something, whole⟩
    have apart : ∀ name ∈ names, '/' ∉ name := by
      intro name member
      have member : name ∈ components long := whole ▸ List.mem_append_left _ member
      exact not_mem_of_mem_splitAtEach member
    refine ⟨['/'].intercalate names, components_inj.mp ?_⟩
    calc components long = names ++ components short := whole
      _ = components (['/'].intercalate names) ++ components short :=
        congrArg (· ++ _) (splitAtEach_intercalate apart something).symm
      _ = components (['/'].intercalate names ++ '/' :: short) := (splitAtEach_append ..).symm

theorem components_suffix_iff :
    components short <:+ components long ↔ long = short ∨ endsBelow long short = true := by
  rw [endsBelow_iff_components]
  constructor
  · rintro ⟨names, whole⟩
    cases names with
    | nil => exact .inl (components_inj.mp whole.symm)
    | cons name names => exact .inr ⟨_, List.cons_ne_nil name names, whole.symm⟩
  · rintro (rfl | ⟨names, -, whole⟩)
    · exact List.suffix_rfl
    · exact ⟨names, whole.symm⟩

def bytes (path : List Char) : List UInt8 := path.flatMap String.utf8EncodeChar

theorem bytes_inj : bytes a = bytes b ↔ a = b := by
  refine ⟨fun same => ?_, congrArg bytes⟩
  have same : a.utf8Encode = b.utf8Encode := congrArg List.toByteArray same
  rw [← String.toByteArray_ofList, ← String.toByteArray_ofList, String.toByteArray_inj] at same
  exact String.ofList_injective same

/-- No character but the slash has the byte of a slash in it: all bytes of a character beyond ASCII
have their highest bit set. -/
theorem eq_slash_of_mem {c : Char} (member : 0x2F ∈ String.utf8EncodeChar c) : c = '/' := by
  have high (x y : UInt8) (set : y.toBitVec[7] = true) : 0x2F ≠ x ||| y := by
    intro same
    have bit := congrArg (·.toBitVec[7]) same
    simp [set] at bit
  rcases c.utf8Size_eq with one | two | three | four
  · rw [String.utf8EncodeChar_eq_singleton one, List.mem_singleton] at member
    rw [Char.utf8Size_eq_one_iff, UInt32.le_iff_toNat_le] at one
    have small : c.val.toNat ≤ 127 := one
    have byte : 47 = c.val.toNat % 2 ^ 8 := congrArg UInt8.toNat member
    apply Char.toNat_inj.mp
    show c.val.toNat = 47
    omega
  · rw [String.utf8EncodeChar_eq_cons_cons two] at member
    simp [high] at member
  · rw [String.utf8EncodeChar_eq_cons_cons_cons three] at member
    simp [high] at member
  · rw [String.utf8EncodeChar_eq_cons_cons_cons_cons four] at member
    simp [high] at member

theorem exists_front_of_bytes {front : List UInt8}
    (whole : bytes long = front ++ 0x2F :: bytes short) :
    ∃ front, long = front ++ '/' :: short := by
  induction long generalizing front with
  | nil => simp [bytes] at whole
  | cons c cs ih =>
    have whole : String.utf8EncodeChar c ++ bytes cs = front ++ 0x2F :: bytes short := whole
    rcases List.append_eq_append_iff.mp whole with ⟨rest, rfl, later⟩ | ⟨rest, first, later⟩
    · obtain ⟨front, rfl⟩ := ih later
      exact ⟨c :: front, rfl⟩
    · cases rest with
      | nil =>
        obtain ⟨front, rfl⟩ := @ih [] later.symm
        exact ⟨c :: front, rfl⟩
      | cons byte rest =>
        -- The slash lies within the bytes of the first character, so that it is this character.
        obtain ⟨rfl, behind⟩ : 0x2F = byte ∧ bytes short = rest ++ bytes cs :=
          List.cons_eq_cons.mp later
        have slash : c = '/' := eq_slash_of_mem (by simp [first])
        subst slash
        have alone : front = [] ∧ rest = [] := by
          have size := congrArg List.length first
          have one : (String.utf8EncodeChar '/').length = 1 := rfl
          simp only [one, List.length_append, List.length_cons] at size
          exact ⟨List.length_eq_zero_iff.mp (by omega), List.length_eq_zero_iff.mp (by omega)⟩
        rw [alone.2, List.nil_append] at behind
        exact ⟨[], congrArg ('/' :: ·) (bytes_inj.mp behind.symm)⟩

def bytesEndBelow (long short : List UInt8) : Bool :=
  short.length < long.length && short.isSuffixOf long &&
    long[long.length - short.length - 1]? = some 0x2F

theorem bytesEndBelow_iff {long short : List UInt8} :
    bytesEndBelow long short = true ↔ ∃ front, long = front ++ 0x2F :: short := by
  have place (front : List UInt8) (last : UInt8) :
      (front ++ last :: short)[(front ++ last :: short).length - short.length - 1]? =
        some last := by
    have size : (front ++ last :: short).length - short.length - 1 = front.length := by
      rw [List.length_append, List.length_cons]
      omega
    rw [size, List.getElem?_append_right (Nat.le_refl _), Nat.sub_self]
    rfl
  unfold bytesEndBelow
  simp only [Bool.and_eq_true, decide_eq_true_eq, List.isSuffixOf_iff_suffix]
  constructor
  · rintro ⟨⟨longer, front, rfl⟩, slash⟩
    have something : front ≠ [] := by
      rintro rfl
      exact Nat.lt_irrefl _ longer
    obtain ⟨front, last, rfl⟩ := (List.eq_nil_or_concat front).resolve_left something
    rw [List.concat_append, place, Option.some.injEq] at slash
    exact ⟨front, by rw [List.concat_append, slash]⟩
  · rintro ⟨front, rfl⟩
    refine ⟨⟨?_, front ++ [0x2F], by simp⟩, place front 0x2F⟩
    rw [List.length_append, List.length_cons]
    omega

theorem endsBelow_eq_bytes (long short : List Char) :
    endsBelow long short = bytesEndBelow (bytes long) (bytes short) := by
  rw [Bool.eq_iff_iff, endsBelow_iff, bytesEndBelow_iff]
  constructor
  · rintro ⟨front, rfl⟩
    exact ⟨bytes front, List.flatMap_append⟩
  · rintro ⟨front, whole⟩
    exact exists_front_of_bytes whole

/-- Two paths correspond just if the names of one are the last names of the other. Told by bytes, it
is the same. -/
theorem correspond_iff_components (a b : List Char) :
    (correspond a b = true ↔ components a <:+ components b ∨ components b <:+ components a) ∧
      correspond a a = true ∧ correspond a b = correspond b a ∧
      correspond a b = (bytes a = bytes b || bytesEndBelow (bytes a) (bytes b) ||
        bytesEndBelow (bytes b) (bytes a)) ∧
      ['/'].intercalate (components a) = a ∧ ∀ name ∈ components a, '/' ∉ name := by
  have ends : correspond a b = true ↔
      components a <:+ components b ∨ components b <:+ components a := by
    unfold correspond
    simp only [Bool.or_eq_true, decide_eq_true_eq, components_suffix_iff]
    grind
  refine ⟨ends, by simp [correspond], ?_, ?_, join_components a, fun name member => ?_⟩
  · unfold correspond
    grind
  · simp only [correspond, endsBelow_eq_bytes, bytes_inj]
  · exact not_mem_of_mem_splitAtEach member

example : correspond "src/größe/a.cc".toList "größe/a.cc".toList = true ∧
    correspond "base/myfoo.cc".toList "foo.cc".toList = false ∧
    correspond "base/".toList "".toList = true := by decide +kernel

end Path

end CulpritFinding
