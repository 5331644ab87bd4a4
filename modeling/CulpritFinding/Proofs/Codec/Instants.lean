import CulpritFinding.Proofs.Codec.Calendar
import CulpritFinding.Proofs.Codec.Digits
import CulpritFinding.Time.Rfc3339

namespace CulpritFinding

theorem isBlank_of_isAsciiDigit {c : Char} (digit : isAsciiDigit c = true) : isBlank c = false := by
  obtain ⟨low, high⟩ := isAsciiDigit_iff.mp digit
  have notSpace : c ≠ ' ' := by
    rintro rfl
    exact absurd low (by decide)
  have notBreak : ¬ c ≤ '\r' := by
    rw [Char.le_def, UInt32.le_iff_toNat_le]
    exact fun early => absurd (Nat.le_trans low early) (by decide)
  have ascii : c.toNat < 0x80 := by omega
  unfold isBlank isAsciiBlank
  simp [ascii, notSpace, notBreak]

theorem trimStart_cons {c : Char} (visible : isBlank c = false) (rest : List Char) :
    trimStart (c :: rest) = c :: rest := by
  unfold trimStart
  rw [List.dropWhile_cons, visible, if_neg Bool.false_ne_true]

theorem trimStart_fixedDigits {width n : Nat} (wide : 0 < width) (rest : List Char) :
    trimStart (fixedDigits width n ++ rest) = fixedDigits width n ++ rest := by
  cases digits : fixedDigits width n with
  | nil =>
    have length := length_fixedDigits width n
    rw [digits, List.length_nil] at length
    omega
  | cons c ds =>
    have member : c ∈ fixedDigits width n := digits ▸ List.mem_cons_self
    exact trimStart_cons (isBlank_of_isAsciiDigit (isAsciiDigit_of_mem_fixedDigits c member)) _

namespace Instant

theorem readMark?_cons {mark : Char} (visible : isBlank mark = false) (rest : List Char) :
    readMark? mark (mark :: rest) = some rest := by
  unfold readMark?
  rw [trimStart_cons visible]
  exact if_pos rfl

theorem readPair?_fixedDigits {n : Nat} (fits : n < 100) (rest : List Char) :
    readPair? (fixedDigits 2 n ++ rest) = some (n, rest) := by
  unfold readPair?
  rw [trimStart_fixedDigits (by decide), readDigits?_fixedDigits (by decide) fits]

theorem readYear?_digits {c : Char} (digit : isAsciiDigit c = true) (rest : List Char) :
    readYear? (c :: rest) = (readDigits? 4 (c :: rest)).map fun r => ((r.1 : Int), r.2) := by
  unfold readYear?
  rw [trimStart_cons (isBlank_of_isAsciiDigit digit)]
  split
  · rename_i same
    obtain ⟨rfl, -⟩ := List.cons.inj same
    exact absurd digit (by decide)
  · rename_i same
    obtain ⟨rfl, -⟩ := List.cons.inj same
    exact absurd digit (by decide)
  · rfl

theorem readYear?_yearText (year : Int) (rest : List Char) :
    readYear? (Date.yearText year ++ '-' :: rest) = some (year, '-' :: rest) := by
  have ends : EndsNumber ('-' :: rest) := endsNumber_cons (by decide) rest
  unfold Date.yearText
  split
  · rename_i usual
    have read : readDigits? 4 (fixedDigits 4 year.toNat ++ '-' :: rest) = some (_, _) :=
      readDigits?_fixedDigits (by decide) (by omega) _
    obtain ⟨c, ds, digits⟩ := List.exists_cons_of_length_pos (l := fixedDigits 4 year.toNat)
      (by rw [length_fixedDigits]; decide)
    have digit : isAsciiDigit c = true :=
      isAsciiDigit_of_mem_fixedDigits c (digits ▸ List.mem_cons_self)
    rw [digits, List.cons_append] at read ⊢
    rw [readYear?_digits digit, read]
    exact congrArg some (Prod.ext (Int.toNat_of_nonneg usual.1) rfl)
  · have longer : (paddedDigits 4 year.natAbs).length ≤
        (paddedDigits 4 year.natAbs ++ '-' :: rest).length := by
      rw [List.length_append]
      omega
    have read := readDigits?_paddedDigits longer ends
    unfold readYear?
    by_cases negative : year < 0
    · rw [if_pos negative, List.cons_append, trimStart_cons (by decide)]
      refine (congrArg (Option.map _) read).trans (congrArg some (Prod.ext ?_ rfl))
      dsimp only
      omega
    · rw [if_neg negative, List.cons_append, trimStart_cons (by decide)]
      refine (congrArg (Option.map _) read).trans (congrArg some (Prod.ext ?_ rfl))
      dsimp only
      omega

theorem readDate?_text {d : Date} (valid : d.isValid = true) (rest : List Char) :
    readDate? (d.text ++ rest) = some (d, rest) := by
  have bounds := valid
  unfold Date.isValid at bounds
  simp only [Bool.and_eq_true, decide_eq_true_eq] at bounds
  obtain ⟨⟨⟨-, month⟩, -⟩, day⟩ := bounds
  have days : Date.daysInMonth d.year d.month ≤ 31 := by
    unfold Date.daysInMonth
    split <;> try decide
    split <;> decide
  unfold readDate? Date.text
  simp only [List.append_assoc, List.cons_append, readYear?_yearText, Option.bind_eq_bind,
    Option.bind_some, readMark?_cons (show isBlank '-' = false by decide),
    readPair?_fixedDigits (show d.month < 100 by omega),
    readPair?_fixedDigits (show d.day < 100 by omega)]
  exact if_pos valid

theorem readClock?_clockText {secondOfDay leap : Nat} (within : secondOfDay < 86400)
    (leapSecond : leap = 0 ∨ leap = 1 ∧ secondOfDay % 60 = 59) (rest : List Char) :
    readClock? (clockText secondOfDay leap ++ rest) =
      some (secondOfDay, leap * 1000000000, rest) := by
  unfold readClock? clockText
  simp only [List.append_assoc, List.cons_append, Option.bind_eq_bind,
    Option.bind_some, readMark?_cons (show isBlank ':' = false by decide),
    readPair?_fixedDigits (show secondOfDay / 3600 < 100 by omega),
    readPair?_fixedDigits (show secondOfDay / 60 % 60 < 100 by omega),
    readPair?_fixedDigits (show secondOfDay % 60 + leap < 100 by omega)]
  rw [if_neg (by omega)]
  rcases leapSecond with rfl | ⟨rfl, last⟩
  · rw [if_neg (by omega)]
    congr 3
    omega
  · rw [if_pos (by omega)]
    congr 3
    omega

theorem digitsValue_append_zeros (ds : List Char) (zeros : Nat) :
    digitsValue (ds ++ List.replicate zeros '0') = digitsValue ds * 10 ^ zeros := by
  induction zeros with
  | zero => rw [List.replicate_zero, List.append_nil, Nat.pow_zero, Nat.mul_one]
  | succ zeros ih =>
    rw [List.replicate_succ', ← List.append_assoc, digitsValue_append, ih, Nat.pow_succ,
      Nat.mul_assoc]
    rfl

theorem readDecimals?_fixedDigits {places n : Nat} {rest : List Char} (some_place : 0 < places)
    (few : places ≤ 9) (fits : n < 10 ^ places) (ends : EndsNumber rest) :
    readDecimals? ('.' :: (fixedDigits places n ++ rest)) = some (n * 10 ^ (9 - places), rest) := by
  have length := length_fixedDigits places n
  have nine : (fixedDigits places n ++ List.replicate 9 '0').take 9 =
      fixedDigits places n ++ List.replicate (9 - places) '0' := by
    rw [List.take_append, List.take_of_length_le (by omega), length, List.take_replicate]
    congr 2
    omega
  have filled : (fixedDigits places n).isEmpty = false := by
    rw [List.isEmpty_eq_false_iff]
    apply List.ne_nil_of_length_pos
    omega
  unfold readDecimals?
  simp only [takeWhile_digits isAsciiDigit_of_mem_fixedDigits ends, filled, nine,
    digitsValue_append_zeros, digitsValue_fixedDigits, Nat.mod_eq_of_lt fits, List.drop_left]
  rfl

theorem readDecimals?_decimalsText {nanos : Nat} (fits : nanos < 1000000000) {rest : List Char}
    (ends : EndsNumber rest) (undotted : rest.head? ≠ some '.') :
    readDecimals? (decimalsText nanos ++ rest) = some (nanos, rest) := by
  unfold decimalsText
  split
  · rename_i whole
    subst whole
    unfold readDecimals?
    split
    · rename_i same
      rw [List.nil_append] at same
      exact absurd (congrArg List.head? same) undotted
    · rfl
  · split
    · rw [List.cons_append, readDecimals?_fixedDigits (by decide) (by decide) (by omega) ends]
      exact congrArg some (Prod.ext (by dsimp only; omega) rfl)
    · split
      · rw [List.cons_append, readDecimals?_fixedDigits (by decide) (by decide) (by omega) ends]
        exact congrArg some (Prod.ext (by dsimp only; omega) rfl)
      · rw [List.cons_append, readDecimals?_fixedDigits (by decide) (by decide) (by omega) ends]
        exact congrArg some (Prod.ext (by dsimp only; omega) rfl)

/-- An instant that clocks can show: it lies in the years that exist, and its leap second, if it is
in one, follows the last second of a minute. -/
structure Fits (t : Instant) : Prop where
  inRange : t.isInRange = true
  nanos : t.nanos < 2000000000
  leap : t.isLeap = true → t.second % 60 = 59

theorem Fits.isValid_date {t : Instant} (fits : t.Fits) :
    (Date.ofDayNumber (t.second / secondsPerDay)).isValid = true := by
  have inRange := fits.inRange
  unfold isInRange first last at inRange
  simp only [Bool.and_eq_true, decide_eq_true_eq] at inRange
  unfold secondsPerDay
  apply Date.isValid_ofDayNumber
  · show -96465292 ≤ _
    omega
  · show _ ≤ 95026236
    omega

theorem parseChars?_chars {t : Instant} (fits : t.Fits) : parseChars? t.chars = some t := by
  have leap : t.nanos / 1000000000 = 0 ∨
      t.nanos / 1000000000 = 1 ∧ (t.second % secondsPerDay).toNat % 60 = 59 := by
    have nanos := fits.nanos
    by_cases inLeap : t.nanos < 1000000000
    · exact .inl (by omega)
    · have last := fits.leap (decide_eq_true (by unfold nanosPerSecond; omega))
      unfold secondsPerDay
      exact .inr (by omega)
  have within : (t.second % secondsPerDay).toNat < 86400 := by
    unfold secondsPerDay
    omega
  have ends : EndsNumber ['Z'] := endsNumber_cons (by decide) []
  have decimals : t.nanos % 1000000000 < 1000000000 := by omega
  unfold parseChars? chars
  simp only [List.append_assoc, List.cons_append, readDate?_text fits.isValid_date,
    readClock?_clockText within leap,
    readDecimals?_decimalsText decimals ends (by decide), Option.bind_eq_bind, Option.bind_some]
  have zone : readOffset? (trimStart ['Z']) = some (0, []) := rfl
  have second : (Date.ofDayNumber (t.second / secondsPerDay)).toDayNumber * secondsPerDay +
      ((t.second % secondsPerDay).toNat : Int) - 0 = t.second := by
    rw [Date.toDayNumber_ofDayNumber]
    unfold secondsPerDay
    omega
  have nanos : t.nanos / 1000000000 * 1000000000 + t.nanos % 1000000000 = t.nanos := by omega
  rw [if_pos (.inl trivial), zone]
  simp only [Option.bind_some, second, nanos]
  exact if_pos ⟨rfl, fits.inRange⟩

theorem parse?_text {t : Instant} (fits : t.Fits) : parse? t.text = some t := by
  unfold parse? text
  rw [String.toList_ofList]
  exact parseChars?_chars fits

section Reading

variable {cs rest : List Char}

theorem readClock?_some {secondOfDay leap : Nat}
    (read : readClock? cs = some (secondOfDay, leap, rest)) :
    leap = 0 ∨ leap = 1000000000 ∧ secondOfDay % 60 = 59 := by
  unfold readClock? at read
  simp only [Option.bind_eq_bind, Option.bind_eq_some_iff] at read
  obtain ⟨⟨hour, _⟩, -, _, -, ⟨minute, _⟩, -, _, -, ⟨second, _⟩, -, read⟩ := read
  dsimp only at read
  split at read
  · cases read
  · split at read
    · cases read
      exact .inr ⟨rfl, by omega⟩
    · cases read
      exact .inl rfl

theorem readDecimals?_lt {nanos : Nat} (read : readDecimals? cs = some (nanos, rest)) :
    nanos < 1000000000 := by
  unfold readDecimals? at read
  split at read
  · rename_i after
    dsimp only at read
    split at read
    · cases read
    · cases read
      have digits : ∀ c ∈ (after.takeWhile isAsciiDigit ++ List.replicate 9 '0').take 9,
          isAsciiDigit c = true := by
        intro c member
        rcases List.mem_append.mp (List.mem_of_mem_take member) with digit | zero
        · exact List.all_eq_true.mp List.all_takeWhile c digit
        · rw [List.eq_of_mem_replicate zero]
          decide
      have nine : ((after.takeWhile isAsciiDigit ++ List.replicate 9 '0').take 9).length = 9 := by
        rw [List.length_take, List.length_append, List.length_replicate]
        omega
      have value := digitsValue_lt digits
      rw [nine] at value
      exact value
  · cases read
    decide

theorem minutes_of_hoursAndMinutes {sign offset : Int}
    (read : (do
      let (hours, cs) ← readTwoDigits? cs
      let (minutes, cs) ← readTwoDigits? (cs.dropWhile fun c => c = ':' || isBlank c)
      if hours ≤ 23 ∧ minutes ≤ 59 then some (sign * (hours * 3600 + minutes * 60), cs)
      else none) = some (offset, rest)) : offset % 60 = 0 := by
  simp only [Option.bind_eq_bind, Option.bind_eq_some_iff] at read
  obtain ⟨⟨hours, _⟩, -, ⟨minutes, _⟩, -, read⟩ := read
  dsimp only at read
  split at read <;> cases read
  have factored : sign * ((hours : Int) * 3600 + minutes * 60) =
      60 * (sign * (hours * 60 + minutes)) := by
    rw [Int.mul_left_comm 60, Int.mul_add 60]
    congr 1
    omega
  rw [factored]
  exact Int.mul_emod_right ..

theorem readOffset?_some {offset : Int} (read : readOffset? cs = some (offset, rest)) :
    offset % 60 = 0 := by
  unfold readOffset? at read
  split at read
  · cases read
    rfl
  · cases read
    rfl
  · split at read
    · cases read
      rfl
    · split at read
      · exact minutes_of_hoursAndMinutes read
      · split at read
        · exact minutes_of_hoursAndMinutes read
        · cases read
  · cases read

theorem fits_of_time {date : Date} {t : Instant}
    (read : (do
      let (secondOfDay, leap, cs) ← readClock? cs
      let (nanos, cs) ← readDecimals? cs
      let (offset, cs) ← readOffset? (trimStart cs)
      let instant : Instant :=
        ⟨date.toDayNumber * secondsPerDay + secondOfDay - offset, leap + nanos⟩
      if cs.all isBlank ∧ instant.isInRange then some instant else none) = some t) : t.Fits := by
  simp only [Option.bind_eq_bind, Option.bind_eq_some_iff] at read
  obtain ⟨⟨secondOfDay, leap, _⟩, clock, ⟨nanos, _⟩, decimals, ⟨offset, _⟩, zone, read⟩ := read
  have leapSecond := readClock?_some clock
  have below := readDecimals?_lt decimals
  have minutes := readOffset?_some zone
  dsimp only at read
  split at read
  · rename_i accepted
    cases read
    refine ⟨accepted.2, ?_, ?_⟩
    · dsimp only
      omega
    · unfold isLeap nanosPerSecond secondsPerDay
      simp only [decide_eq_true_eq]
      omega
  · cases read

theorem fits_of_parse? {s : String} {t : Instant} (read : parse? s = some t) : t.Fits := by
  unfold parse? parseChars? at read
  rw [Option.bind_eq_bind, Option.bind_eq_some_iff] at read
  obtain ⟨⟨date, _⟩, -, read⟩ := read
  dsimp only at read
  split at read
  · split at read
    · exact fits_of_time read
    · cases read
  · cases read

end Reading

end Instant

end CulpritFinding
