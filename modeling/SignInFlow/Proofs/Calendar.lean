import SignInFlow.Instant

/-!
# Counting days

A count of days is taken apart into eras, centuries, quadrennia, years and days.  Only the last year
of a quadrennium has a day more than 365, and of the last quadrennia of a century only that of the
last century.  Over these parts the two directions of the calendar are seen to be inverse.
-/

namespace SignInFlow.CivilDate

/-- A count of days since the first of March of the year 0, taken apart. -/
structure Parts where
  /-- Eras of 400 years. -/
  era : Int
  /-- Centuries within the era. -/
  century : Int
  /-- Spans of four years within the century. -/
  quadrennium : Int
  /-- Years within the quadrennium. -/
  year : Int
  /-- Days within the year, which begins in March. -/
  day : Int
  century_range : 0 ≤ century ∧ century ≤ 3
  quadrennium_range : 0 ≤ quadrennium ∧ quadrennium ≤ 24
  year_range : 0 ≤ year ∧ year ≤ 3
  day_range : 0 ≤ day ∧ day ≤ 365
  leap : day = 365 → year = 3 ∧ (quadrennium = 24 → century = 3)

namespace Parts

/-- The year of the era. -/
def yearOfEra (parts : Parts) : Int := 100 * parts.century + 4 * parts.quadrennium + parts.year

/-- The year, which begins in March. -/
def marchYear (parts : Parts) : Int := 400 * parts.era + parts.yearOfEra

/-- The day of the era. -/
def dayOfEra (parts : Parts) : Int :=
  36524 * parts.century + 1461 * parts.quadrennium + 365 * parts.year + parts.day

/-- The count of days since the start of 1970. -/
def days (parts : Parts) : Int := 146097 * parts.era + parts.dayOfEra - 719468

theorem exists_days_eq (days : Int) : ∃ parts : Parts, parts.days = days := by
  obtain ⟨era, dayOfEra, eraSplit, least, greatest⟩ :
      ∃ era dayOfEra : Int, days + 719468 = 146097 * era + dayOfEra ∧
        0 ≤ dayOfEra ∧ dayOfEra ≤ 146096 :=
    ⟨(days + 719468) / 146097, (days + 719468) % 146097, by omega, by omega, by omega⟩
  -- Division makes the last century of an era and the last year of a quadrennium a day too short.
  obtain ⟨century, dayOfCentury, centurySplit, century_range, nonnegative, dayOfCentury_range⟩ :
      ∃ century dayOfCentury : Int, dayOfEra = 36524 * century + dayOfCentury ∧
        (0 ≤ century ∧ century ≤ 3) ∧ 0 ≤ dayOfCentury ∧
        (dayOfCentury ≤ 36523 ∨ dayOfCentury = 36524 ∧ century = 3) := by
    by_cases last : dayOfEra = 146096
    · exact ⟨3, 36524, by omega, by omega, by omega, by omega⟩
    · exact ⟨dayOfEra / 36524, dayOfEra % 36524, by omega, by omega, by omega, by omega⟩
  obtain ⟨year, day, yearSplit, year_range, day_range, leap⟩ :
      ∃ year day : Int, dayOfCentury % 1461 = 365 * year + day ∧ (0 ≤ year ∧ year ≤ 3) ∧
        (0 ≤ day ∧ day ≤ 365) ∧ (day = 365 → year = 3) := by
    by_cases last : dayOfCentury % 1461 = 1460
    · exact ⟨3, 365, by omega, by omega, by omega, by omega⟩
    · exact ⟨dayOfCentury % 1461 / 365, dayOfCentury % 1461 % 365,
        by omega, by omega, by omega, by omega⟩
  refine ⟨⟨era, century, dayOfCentury / 1461, year, day, century_range, by omega, year_range,
    day_range, fun last => ⟨leap last, by have := leap last; omega⟩⟩, ?_⟩
  simp only [Parts.days, Parts.dayOfEra]
  omega

variable (parts : Parts)

theorem yearOfEra_range : 0 ≤ parts.yearOfEra ∧ parts.yearOfEra ≤ 399 := by
  have := parts.century_range
  have := parts.quadrennium_range
  have := parts.year_range
  unfold yearOfEra
  omega

theorem dayOfEra_range : 0 ≤ parts.dayOfEra ∧ parts.dayOfEra ≤ 146096 := by
  have := parts.century_range
  have := parts.quadrennium_range
  have := parts.year_range
  have := parts.day_range
  have := parts.leap
  unfold dayOfEra
  omega

/-- The leap days of the era before the year. -/
theorem dayOfEra_eq : parts.dayOfEra =
    365 * parts.yearOfEra + parts.yearOfEra / 4 - parts.yearOfEra / 100 + parts.day := by
  have := parts.century_range
  have := parts.quadrennium_range
  have := parts.year_range
  have quadrennia : parts.yearOfEra / 4 = 25 * parts.century + parts.quadrennium := by
    unfold yearOfEra
    omega
  have centuries : parts.yearOfEra / 100 = parts.century := by
    unfold yearOfEra
    omega
  rw [quadrennia, centuries]
  unfold dayOfEra yearOfEra
  omega

/-- The year of the era as it is found from the day. -/
theorem yearOfEra_eq : (parts.dayOfEra - parts.dayOfEra / 1460 + parts.dayOfEra / 36524
    - parts.dayOfEra / 146096) / 365 = parts.yearOfEra := by
  have := parts.century_range
  have := parts.quadrennium_range
  have := parts.year_range
  have := parts.day_range
  have := parts.leap
  unfold dayOfEra yearOfEra
  generalize split : 36524 * parts.century + 1461 * parts.quadrennium +
    365 * parts.year + parts.day = dayOfEra
  have quadrennia : dayOfEra / 1460 = 25 * parts.century + parts.quadrennium ∨
      dayOfEra / 1460 = 25 * parts.century + parts.quadrennium + 1 ∧
        1460 ≤ 24 * parts.century + parts.quadrennium + 365 * parts.year + parts.day := by
    omega
  by_cases last : dayOfEra = 146096
  · omega
  · have centuries : dayOfEra / 36524 = parts.century := by omega
    have within : dayOfEra / 146096 = 0 := by omega
    omega

end Parts

/-- The date of a day of a year that begins in March. -/
def fromMarch (year day : Int) : CivilDate :=
  let month := (5 * day + 2) / 153
  ⟨if month < 10 then year else year + 1, (if month < 10 then month + 3 else month - 9).toNat,
    (day - (153 * month + 2) / 5 + 1).toNat⟩

theorem ofDays_days (parts : Parts) :
    ofDays parts.days = fromMarch parts.marchYear parts.day := by
  obtain ⟨least, greatest⟩ := parts.dayOfEra_range
  have range := parts.day_range
  have era_eq : (146097 * parts.era + parts.dayOfEra) / 146097 = parts.era := by omega
  have rest_eq : (146097 * parts.era + parts.dayOfEra) % 146097 = parts.dayOfEra := by omega
  have day_eq : parts.dayOfEra -
      (365 * parts.yearOfEra + parts.yearOfEra / 4 - parts.yearOfEra / 100) = parts.day := by
    have := parts.dayOfEra_eq
    omega
  simp only [ofDays, Parts.days, Int.sub_add_cancel, era_eq, rest_eq, parts.yearOfEra_eq, day_eq,
    fromMarch, Parts.marchYear]
  congr 1
  split <;> split <;> omega

theorem toDays_fromMarch (parts : Parts) :
    toDays (fromMarch parts.marchYear parts.day) = parts.days := by
  obtain ⟨least, greatest⟩ := parts.yearOfEra_range
  have range := parts.day_range
  have era_eq : parts.marchYear / 400 = parts.era := by
    unfold Parts.marchYear
    omega
  have rest_eq : parts.marchYear % 400 = parts.yearOfEra := by
    unfold Parts.marchYear
    omega
  have months : 0 ≤ (5 * parts.day + 2) / 153 ∧ (5 * parts.day + 2) / 153 ≤ 11 := by omega
  simp only [Parts.days, parts.dayOfEra_eq, toDays, fromMarch]
  by_cases spring : (5 * parts.day + 2) / 153 < 10
  · have shifted : (((5 * parts.day + 2) / 153 + 3).toNat + 9) % 12 =
        ((5 * parts.day + 2) / 153).toNat := by
      omega
    have late : ¬((5 * parts.day + 2) / 153 + 3).toNat ≤ 2 := by omega
    simp only [spring, if_true, late, if_false, shifted, era_eq, rest_eq]
    omega
  · have shifted : (((5 * parts.day + 2) / 153 - 9).toNat + 9) % 12 =
        ((5 * parts.day + 2) / 153).toNat := by
      omega
    have early : ((5 * parts.day + 2) / 153 - 9).toNat ≤ 2 := by omega
    simp only [spring, if_false, early, if_true, shifted, Int.add_sub_cancel, era_eq, rest_eq]
    omega

/-- The last day of February that only leap years have falls into leap years. -/
theorem isLeapYear_of_last (parts : Parts) (last : parts.day = 365) :
    isLeapYear (parts.marchYear + 1) = true := by
  obtain ⟨year_eq, century_eq⟩ := parts.leap last
  have := parts.century_range
  have := parts.quadrennium_range
  simp only [isLeapYear, Parts.marchYear, Parts.yearOfEra, Bool.and_eq_true, Bool.or_eq_true,
    beq_iff_eq, bne_iff_ne]
  omega

theorem fromMarch_isValid (parts : Parts)
    (inRange : yearInRange (fromMarch parts.marchYear parts.day).year = true) :
    (fromMarch parts.marchYear parts.day).isValid = true := by
  have range := parts.day_range
  have leap := isLeapYear_of_last parts
  simp only [isValid, inRange, Bool.true_and, Bool.and_eq_true, decide_eq_true_eq]
  simp only [fromMarch, monthLength]
  by_cases spring : (5 * parts.day + 2) / 153 < 10
  · simp only [spring, if_true]
    refine ⟨⟨⟨by omega, by omega⟩, by omega⟩, ?_⟩
    rw [if_neg (by omega)]
    split <;> omega
  · simp only [spring, if_false]
    refine ⟨⟨⟨by omega, by omega⟩, by omega⟩, ?_⟩
    by_cases last : parts.day = 365
    · rw [if_pos (by omega), leap last, if_pos rfl]
      omega
    · split
      · split <;> omega
      · split <;> omega

/-- Counting the days to a date undoes finding the date of a day. -/
theorem toDays_ofDays (days : Int) : toDays (ofDays days) = days := by
  obtain ⟨parts, rfl⟩ := Parts.exists_days_eq days
  rw [ofDays_days, toDays_fromMarch]

/-- The date of a day exists, as far as years are kept. -/
theorem ofDays_isValid (days : Int) (inRange : yearInRange (ofDays days).year = true) :
    (ofDays days).isValid = true := by
  obtain ⟨parts, rfl⟩ := Parts.exists_days_eq days
  rw [ofDays_days] at inRange ⊢
  exact fromMarch_isValid parts inRange

end SignInFlow.CivilDate
