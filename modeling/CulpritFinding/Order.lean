namespace CulpritFinding

/-- A type whose values can serve as keys of a sorted collection: `before` is a strict linear
order. -/
class SortKey (κ : Type) where
  before : κ → κ → Bool
  before_irrefl : ∀ a, before a a = false
  before_trans : ∀ {a b c}, before a b = true → before b c = true → before a c = true
  eq_of_not_before : ∀ {a b}, before a b = false → before b a = false → a = b

namespace SortKey

@[reducible] def ofInjective {κ μ : Type} [SortKey μ] (f : κ → μ)
    (injective : ∀ {a b}, f a = f b → a = b) : SortKey κ where
  before a b := before (f a) (f b)
  before_irrefl a := before_irrefl (f a)
  before_trans := before_trans
  eq_of_not_before h h' := injective (eq_of_not_before h h')

variable {κ : Type} [SortKey κ]

theorem not_before_of_before {a b : κ} (h : before a b = true) : before b a = false := by
  cases hb : before b a with
  | false => rfl
  | true =>
    have := before_trans h hb
    rw [before_irrefl] at this
    cases this

theorem ne_of_before {a b : κ} (h : before a b = true) : a ≠ b := by
  rintro rfl
  rw [before_irrefl] at h
  cases h

end SortKey

instance : SortKey Nat where
  before a b := decide (a < b)
  before_irrefl a := by simp
  before_trans h h' := by
    simp only [decide_eq_true_eq] at *
    omega
  eq_of_not_before h h' := by
    simp only [decide_eq_false_iff_not] at *
    omega

instance : SortKey Int where
  before a b := decide (a < b)
  before_irrefl a := by simp
  before_trans h h' := by
    simp only [decide_eq_true_eq] at *
    omega
  eq_of_not_before h h' := by
    simp only [decide_eq_false_iff_not] at *
    omega

def listBefore {κ : Type} [SortKey κ] : List κ → List κ → Bool
  | _, [] => false
  | [], _ :: _ => true
  | a :: as, b :: bs => SortKey.before a b || (!SortKey.before b a && listBefore as bs)

section Lists

variable {κ : Type} [SortKey κ]

theorem listBefore_irrefl (as : List κ) : listBefore as as = false := by
  induction as with
  | nil => rfl
  | cons a as ih => simp [listBefore, SortKey.before_irrefl, ih]

theorem listBefore_trans {as bs cs : List κ} (h : listBefore as bs = true)
    (h' : listBefore bs cs = true) : listBefore as cs = true := by
  induction as generalizing bs cs with
  | nil =>
    cases cs with
    | nil => cases bs <;> simp [listBefore] at h'
    | cons => rfl
  | cons a as ih =>
    cases bs with
    | nil => simp [listBefore] at h
    | cons b bs =>
      cases cs with
      | nil => simp [listBefore] at h'
      | cons c cs =>
        simp only [listBefore, Bool.or_eq_true, Bool.and_eq_true, Bool.not_eq_true'] at h h' ⊢
        rcases h with hab | ⟨hba, htail⟩
        · rcases h' with hbc | ⟨hcb, _⟩
          · exact .inl (SortKey.before_trans hab hbc)
          · cases hbc : SortKey.before b c with
            | true => exact .inl (SortKey.before_trans hab hbc)
            | false => exact .inl (SortKey.eq_of_not_before hbc hcb ▸ hab)
        · cases hab : SortKey.before a b with
          | true =>
            rcases h' with hbc | ⟨hcb, _⟩
            · exact .inl (SortKey.before_trans hab hbc)
            · cases hbc : SortKey.before b c with
              | true => exact .inl (SortKey.before_trans hab hbc)
              | false => exact .inl (SortKey.eq_of_not_before hbc hcb ▸ hab)
          | false =>
            have same := SortKey.eq_of_not_before hab hba
            subst same
            rcases h' with hac | ⟨hca, htail'⟩
            · exact .inl hac
            · exact .inr ⟨hca, ih htail htail'⟩

theorem eq_of_not_listBefore {as bs : List κ} (h : listBefore as bs = false)
    (h' : listBefore bs as = false) : as = bs := by
  induction as generalizing bs with
  | nil =>
    cases bs with
    | nil => rfl
    | cons => simp [listBefore] at h
  | cons a as ih =>
    cases bs with
    | nil => simp [listBefore] at h'
    | cons b bs =>
      simp only [listBefore, Bool.or_eq_false_iff, Bool.and_eq_false_iff,
        Bool.not_eq_false'] at h h'
      have same : a = b := SortKey.eq_of_not_before h.1 h'.1
      subst same
      simp only [SortKey.before_irrefl, Bool.false_eq_true, false_or, true_and] at h h'
      rw [ih h h']

end Lists

instance {κ : Type} [SortKey κ] : SortKey (List κ) where
  before := listBefore
  before_irrefl := listBefore_irrefl
  before_trans := listBefore_trans
  eq_of_not_before := eq_of_not_listBefore

instance : SortKey Char := .ofInjective Char.toNat Char.toNat_inj.mp

instance : SortKey String := .ofInjective String.toList String.toList_inj.mp

end CulpritFinding
