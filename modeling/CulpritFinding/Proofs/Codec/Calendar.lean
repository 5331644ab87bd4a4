import CulpritFinding.Time.Date

namespace CulpritFinding.Date

/-- A day of an era of 400 years: so many centuries, then so many groups of four years, then so many
years and days. A year begins with March, so that its leap day, if it has one, is its last. -/
structure EraDay (n century group year day : Int) : Prop where
  sum : n = 36524 * century + 1461 * group + 365 * year + day
  century_nonneg : 0 ≤ century
  century_le : century ≤ 3
  group_nonneg : 0 ≤ group
  group_le : group ≤ 24
  year_nonneg : 0 ≤ year
  year_le : year ≤ 3
  day_nonneg : 0 ≤ day
  day_le : day ≤ 365
  leap : day = 365 → year = 3 ∧ (group = 24 → century = 3)

theorem exists_eraDay {n : Int} (low : 0 ≤ n) (high : n < daysInEra) :
    ∃ century group year day, EraDay n century group year day := by
  unfold daysInEra at high
  let century := min (n / 36524) 3
  let inCentury := n - 36524 * century
  let group := inCentury / 1461
  let inGroup := inCentury - 1461 * group
  let year := min (inGroup / 365) 3
  refine ⟨century, group, year, inGroup - 365 * year, ?_⟩
  constructor <;> omega

namespace EraDay

variable {n century group year day : Int}

theorem yearOfEra (d : EraDay n century group year day) :
    (n - n / 1460 + n / 36524 - n / 146096) / 365 = 100 * century + 4 * group + year := by
  obtain ⟨sum, century_nonneg, century_le, group_nonneg, group_le, year_nonneg, year_le,
    day_nonneg, day_le, leap⟩ := d
  have within : 1461 * group + 365 * year + day ≤ 36523 ∨
      1461 * group + 365 * year + day = 36524 ∧ century = 3 := by omega
  have centuries : n / 36524 - n / 146096 = century := by
    rcases within with within | ⟨within, rfl⟩
    · have : n / 36524 = century := by omega
      have : n / 146096 = 0 := by omega
      omega
    · omega
  let late : Int := if 1460 ≤ 24 * century + group + 365 * year + day then 1 else 0
  have groups : n / 1460 = 25 * century + group + late := by
    unfold late
    split <;> omega
  have shortened : n - n / 1460 + n / 36524 - n / 146096 =
      365 * (100 * century + 4 * group + year) + (day - late) := by omega
  rw [shortened]
  unfold late
  split <;> omega

theorem leapYears (d : EraDay n century group year day) :
    (100 * century + 4 * group + year) / 4 = 25 * century + group ∧
      (100 * century + 4 * group + year) / 100 = century := by
  obtain ⟨-, -, -, group_nonneg, group_le, year_nonneg, year_le, -, -, -⟩ := d
  omega

end EraDay

def ofMarchDay (year day : Int) : Date :=
  let monthFromMarch := (5 * day + 2) / 153
  let month := if monthFromMarch < 10 then monthFromMarch + 3 else monthFromMarch - 9
  ⟨year + if month ≤ 2 then 1 else 0, month.toNat,
    (day - (153 * monthFromMarch + 2) / 5 + 1).toNat⟩

theorem exists_ofMarchDay (n : Int) : ∃ era century group year day,
    EraDay (n + epochShift - era * daysInEra) century group year day ∧
      ofDayNumber n = ofMarchDay (era * 400 + (100 * century + 4 * group + year)) day := by
  have low : 0 ≤ (n + epochShift) % daysInEra := Int.emod_nonneg _ (by decide)
  have high : (n + epochShift) % daysInEra < daysInEra := Int.emod_lt_of_pos _ (by decide)
  have rest : (n + epochShift) % daysInEra =
      n + epochShift - (n + epochShift) / daysInEra * daysInEra := by
    rw [Int.emod_def, Int.mul_comm]
  obtain ⟨century, group, year, day, d⟩ := exists_eraDay low high
  refine ⟨(n + epochShift) / daysInEra, century, group, year, day, rest ▸ d, ?_⟩
  obtain ⟨groups, centuries⟩ := d.leapYears
  have dayOfYear : (n + epochShift) % daysInEra -
      (365 * (100 * century + 4 * group + year) + (25 * century + group) - century) = day := by
    have := d.sum
    omega
  unfold ofDayNumber ofMarchDay
  simp only [d.yearOfEra, groups, centuries, dayOfYear]
  rw [Int.add_comm (_ * 400)]

section MarchDay

variable {year day : Int} (low : 0 ≤ day) (high : day ≤ 365)

include low high

theorem ofMarchDay_month : 1 ≤ (ofMarchDay year day).month ∧ (ofMarchDay year day).month ≤ 12 := by
  unfold ofMarchDay
  dsimp only
  split <;> omega

theorem toDayNumber_ofMarchDay : (ofMarchDay year day).toDayNumber =
    year / 400 * daysInEra + (year % 400 * 365 + year % 400 / 4 - year % 400 / 100 + day) -
      epochShift := by
  obtain ⟨month, monthEq⟩ : ∃ month, month = (5 * day + 2) / 153 := ⟨_, rfl⟩
  have within : 0 ≤ month ∧ month ≤ 11 := by omega
  have started : (153 * month + 2) / 5 ≤ day := by omega
  unfold ofMarchDay toDayNumber
  dsimp only
  rw [← monthEq]
  by_cases spring : month < 10
  · have later : ¬ (month + 3 ≤ 2) := by omega
    have later' : ¬ ((month + 3).toNat ≤ 2) := by omega
    have number : ((month + 3).toNat : Int) - 3 = month := by omega
    simp only [if_pos spring, if_neg later, if_neg later', number, Int.add_zero]
    omega
  · have earlier : month - 9 ≤ 2 := by omega
    have earlier' : (month - 9).toNat ≤ 2 := by omega
    have number : ((month - 9).toNat : Int) + 9 = month := by omega
    simp only [if_neg spring, if_pos earlier, if_pos earlier', number, Int.add_sub_cancel]
    omega

theorem year_ofMarchDay :
    (ofMarchDay year day).year = year + if 306 ≤ day then 1 else 0 := by
  unfold ofMarchDay
  dsimp only
  split <;> split <;> split <;> omega

theorem isValid_ofMarchDay (leap : day = 365 → isLeapYear (year + 1) = true)
    (first : firstYear ≤ (ofMarchDay year day).year)
    (last : (ofMarchDay year day).year ≤ lastYear) : (ofMarchDay year day).isValid = true := by
  obtain ⟨start, stop⟩ := @ofMarchDay_month year day low high
  have days : 1 ≤ (ofMarchDay year day).day ∧
      (ofMarchDay year day).day ≤
        daysInMonth (ofMarchDay year day).year (ofMarchDay year day).month := by
    obtain ⟨month, monthEq⟩ : ∃ month, month = (5 * day + 2) / 153 := ⟨_, rfl⟩
    unfold ofMarchDay
    dsimp only
    rw [← monthEq]
    have months : month = 0 ∨ month = 1 ∨ month = 2 ∨ month = 3 ∨ month = 4 ∨ month = 5 ∨
        month = 6 ∨ month = 7 ∨ month = 8 ∨ month = 9 ∨ month = 10 ∨ month = 11 := by omega
    rcases months with rfl | rfl | rfl | rfl | rfl | rfl | rfl | rfl | rfl | rfl | rfl | rfl
    all_goals
      simp only [daysInMonth, Int.reduceLT, Int.reduceLE, Int.reduceAdd, Int.reduceSub,
        Int.reduceToNat, if_true, if_false]
      try omega
    by_cases leapDay : day = 365
    · rw [if_pos (leap leapDay)]
      omega
    · split <;> omega
  unfold isValid
  simp only [Bool.and_eq_true, decide_eq_true_eq]
  exact ⟨⟨⟨⟨⟨first, last⟩, start⟩, stop⟩, days.1⟩, days.2⟩

end MarchDay

theorem toDayNumber_ofDayNumber (n : Int) : (ofDayNumber n).toDayNumber = n := by
  obtain ⟨era, century, group, year, day, d, same⟩ := exists_ofMarchDay n
  obtain ⟨groups, centuries⟩ := d.leapYears
  obtain ⟨sum, century_nonneg, century_le, group_nonneg, group_le, year_nonneg, year_le,
    day_nonneg, day_le, leap⟩ := d
  rw [same, toDayNumber_ofMarchDay day_nonneg day_le]
  have inEra : (era * 400 + (100 * century + 4 * group + year)) / 400 = era := by omega
  have ofEra : (era * 400 + (100 * century + 4 * group + year)) % 400 =
      100 * century + 4 * group + year := by omega
  rw [inEra, ofEra, groups, centuries]
  omega

theorem isValid_ofDayNumber {n : Int} (low : (⟨firstYear, 1, 1⟩ : Date).toDayNumber ≤ n)
    (high : n ≤ (⟨lastYear, 12, 31⟩ : Date).toDayNumber) : (ofDayNumber n).isValid = true := by
  obtain ⟨era, century, group, year, day, d, same⟩ := exists_ofMarchDay n
  have first : -96465292 ≤ n := low
  have last : n ≤ 95026236 := high
  obtain ⟨sum, century_nonneg, century_le, group_nonneg, group_le, year_nonneg, year_le,
    day_nonneg, day_le, leap⟩ := d
  rw [same]
  unfold epochShift daysInEra at sum
  refine isValid_ofMarchDay day_nonneg day_le (fun leapDay => ?_) ?_ ?_
  · obtain ⟨rfl, century⟩ := leap leapDay
    simp only [isLeapYear, Bool.and_eq_true, Bool.or_eq_true, decide_eq_true_eq]
    omega
  · rw [year_ofMarchDay day_nonneg day_le]
    unfold firstYear
    split <;> omega
  · rw [year_ofMarchDay day_nonneg day_le]
    unfold lastYear
    refine Int.not_lt.mp fun beyond => ?_
    have lastEra : era = 655 := by split at beyond <;> omega
    have lastCentury : century = 1 := by split at beyond <;> omega
    split at beyond <;> omega

end CulpritFinding.Date
