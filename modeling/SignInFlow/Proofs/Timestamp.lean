import SignInFlow.Instant.Printer
import SignInFlow.Instant.Reader
import SignInFlow.Proofs.Calendar

/-!
# Timestamps are read as they are written

Each number of a timestamp is a run of digits that ends where the next separator begins, so that a
reader takes exactly the digits that were written.  The parts follow one another, and the calendar
is undone.
-/

namespace SignInFlow

/-! ## Runs of digits -/

/-- A list of digits and what they are worth. -/
structure Numeral (digits : List Char) (value : Nat) : Prop where
  all_digits : ∀ digit ∈ digits, digit.isDigit = true
  nonempty : digits ≠ []
  value_eq : digitsValue digits = value

theorem digitsValue_eq (digits : List Char) :
    digitsValue digits = Nat.ofDigitChars 10 digits 0 := by
  rw [Nat.ofDigitChars_eq_foldl]
  unfold digitsValue baseValue digitValue
  simp only [Nat.mul_comm]

namespace Instant

theorem numeral_padded (width value : Nat) : Numeral (padded width value).toList value where
  all_digits := by
    intro digit member
    simp only [padded, Decimal.zeros, Decimal.digitText, String.toList_append, String.toList_ofList,
      List.mem_append, List.mem_replicate] at member
    rcases member with ⟨-, rfl⟩ | written
    · rfl
    · exact Nat.isDigit_of_mem_toDigits (by decide) (by decide) written
  nonempty := by
    simp [padded, Decimal.zeros, Decimal.digitText, Nat.toDigits_ne_nil]
  value_eq := by
    rw [digitsValue_eq]
    simp only [padded, Decimal.zeros, Decimal.digitText, String.toList_append, String.toList_ofList,
      Nat.ofDigitChars_append, Nat.ofDigitChars_replicate_zero, Nat.mul_zero,
      Nat.ofDigitChars_ten_toDigits]

theorem length_padded {width value : Nat} (positive : 0 < width) (fits : value < Nat.pow 10 width) :
    (padded width value).toList.length = width := by
  have short : (Nat.toDigits 10 value).length ≤ width :=
    (Nat.length_toDigits_le_iff (by decide) positive).mpr fits
  simp [padded, Decimal.zeros, Decimal.digitText]
  omega

end Instant

namespace Numeral

variable {digits : List Char} {value : Nat}

theorem takeWhile_isDigit (numeral : Numeral digits value) {next : Char} {rest : List Char}
    (ends : next.isDigit = false) : (digits ++ next :: rest).takeWhile Char.isDigit = digits := by
  rw [List.takeWhile_append_of_pos numeral.all_digits]
  simp [List.takeWhile, ends]

theorem takeDigits (numeral : Numeral digits value) {limit : Option Nat} {next : Char}
    {rest : List Char} (fits : ∀ bound, limit = some bound → digits.length ≤ bound)
    (ends : next.isDigit = false) :
    Instant.takeDigits limit (digits ++ next :: rest) = (digits, next :: rest) := by
  unfold Instant.takeDigits
  rw [numeral.takeWhile_isDigit ends]
  cases limit with
  | none => simp
  | some bound => simp [List.take_of_length_le (fits bound rfl)]

theorem dropBlanks (numeral : Numeral digits value) (rest : List Char) :
    SignInFlow.dropBlanks (digits ++ rest) = digits ++ rest := by
  obtain ⟨first, tail, rfl⟩ := List.exists_cons_of_ne_nil numeral.nonempty
  have digit := numeral.all_digits first List.mem_cons_self
  have solid : isBlank first = false := by
    have bounds : 48 ≤ first.toNat ∧ first.toNat ≤ 57 := by
      simpa [Char.isDigit, UInt32.le_iff_toNat_le] using digit
    simp only [isBlank, Bool.or_eq_false_iff, Bool.and_eq_false_iff, decide_eq_false_iff_not,
      beq_eq_false_iff_ne]
    omega
  simp [SignInFlow.dropBlanks, solid]

theorem number? (numeral : Numeral digits value) {limit : Option Nat} {next : Char}
    {rest : List Char}
    (fits : ∀ bound, limit = some bound → digits.length ≤ bound) (ends : next.isDigit = false) :
    Instant.number? limit (digits ++ next :: rest) = some (value, next :: rest) := by
  unfold Instant.number?
  rw [numeral.dropBlanks, numeral.takeDigits fits ends]
  simp [numeral.nonempty, numeral.value_eq]

end Numeral

namespace Instant

/-- Two digits are read back, whatever separator follows. -/
theorem number?_padded {value : Nat} (fits : value < 100) (next : Char) {rest : List Char}
    (ends : next.isDigit = false) :
    number? (some 2) ((padded 2 value).toList ++ next :: rest) = some (value, next :: rest) := by
  apply (numeral_padded 2 value).number? _ ends
  rintro bound ⟨⟩
  exact Nat.le_of_eq (length_padded (by decide) fits)

theorem afterSeparator?_cons (separator : Char) (solid : isBlank separator = false)
    (rest : List Char) :
    afterSeparator? separator (separator :: rest) = some rest := by
  simp [afterSeparator?, dropBlanks, solid]

theorem year?_yearText (year : Int) (rest : List Char) :
    year? ((yearText year).toList ++ '-' :: rest) = some (year, '-' :: rest) := by
  have numeral := numeral_padded 4 year.natAbs
  have signed : takeDigits none ((padded 4 year.natAbs).toList ++ '-' :: rest) =
      ((padded 4 year.natAbs).toList, '-' :: rest) :=
    numeral.takeDigits (by simp) rfl
  unfold year? yearText
  by_cases plain : 0 ≤ year ∧ year ≤ 9999
  · rw [if_pos plain, numeral.dropBlanks]
    have read : number? (some 4) ((padded 4 year.natAbs).toList ++ '-' :: rest) =
        some (year.natAbs, '-' :: rest) := by
      apply numeral.number? _ rfl
      rintro bound ⟨⟩
      exact Nat.le_of_eq (length_padded (by decide) (by rw [Nat.pow_eq]; omega))
    obtain ⟨first, tail, split⟩ := List.exists_cons_of_ne_nil numeral.nonempty
    have digit : first.isDigit = true := numeral.all_digits first (by simp [split])
    rw [split] at read ⊢
    simp only [List.cons_append] at read ⊢
    split
    · rename_i sign
      cases sign
      cases digit
    · rename_i sign
      cases sign
      cases digit
    · rw [read]
      simp only [Option.map_some, Option.some.injEq, Prod.mk.injEq, and_true]
      omega
  · rw [if_neg plain]
    have minus : "-".toList = ['-'] := rfl
    have plus : "+".toList = ['+'] := rfl
    by_cases negative : year < 0
    · have blank : isBlank '-' = false := rfl
      simp only [negative, if_true, String.toList_append, minus, List.cons_append, List.nil_append,
        dropBlanks, List.dropWhile, blank, signed]
      simp only [List.isEmpty_iff, numeral.nonempty, if_false, numeral.value_eq, Option.map_some,
        Option.some.injEq, Prod.mk.injEq, and_true]
      omega
    · have blank : isBlank '+' = false := rfl
      simp only [negative, if_false, String.toList_append, plus, List.cons_append, List.nil_append,
        dropBlanks, List.dropWhile, blank, signed]
      simp only [List.isEmpty_iff, numeral.nonempty, if_false, numeral.value_eq, Option.map_some,
        Option.some.injEq, Prod.mk.injEq, and_true]
      omega

theorem date?_render (date : CivilDate) (month_range : date.month < 100)
    (day_range : date.day < 100) (rest : List Char) :
    date? ((yearText date.year).toList ++ '-' :: ((padded 2 date.month).toList ++
      '-' :: ((padded 2 date.day).toList ++ 'T' :: rest))) = some (date, 'T' :: rest) := by
  unfold date?
  rw [year?_yearText]
  simp only [Option.bind_eq_bind, Option.bind_some, Option.pure_def,
    afterSeparator?_cons '-' rfl, number?_padded month_range '-' rfl,
    number?_padded day_range 'T' rfl]

theorem fraction?_point {width value : Nat} (short : width ≤ 9) (positive : 0 < width)
    (fits : value < Nat.pow 10 width) :
    fraction? ('.' :: ((padded width value).toList ++ ['Z'])) =
      some (value * Nat.pow 10 (9 - width), ['Z']) := by
  have numeral := numeral_padded width value
  have length := length_padded positive fits
  have taken : takeDigits (some 9) ((padded width value).toList ++ ['Z']) =
      ((padded width value).toList, ['Z']) := by
    apply numeral.takeDigits _ rfl
    rintro bound ⟨⟩
    omega
  simp [fraction?, taken, numeral.nonempty, numeral.value_eq, length]

/-- No decimal that is written is lost, and none that is not written counts. -/
theorem fraction?_fractionText {nanoseconds : Nat} (fits : nanoseconds < 1000000000) :
    fraction? ((fractionText nanoseconds).toList ++ ['Z']) = some (nanoseconds, ['Z']) := by
  have point : ".".toList = ['.'] := rfl
  unfold fractionText
  split
  · rename_i none
    subst none
    rfl
  · split
    · rw [String.toList_append, point, List.cons_append, List.nil_append, List.cons_append,
        fraction?_point (by decide) (by decide) (by rw [Nat.pow_eq]; omega)]
      simp only [Option.some.injEq, Prod.mk.injEq, and_true, Nat.pow_eq]
      omega
    · split
      · rw [String.toList_append, point, List.cons_append, List.nil_append, List.cons_append,
          fraction?_point (by decide) (by decide) (by rw [Nat.pow_eq]; omega)]
        simp only [Option.some.injEq, Prod.mk.injEq, and_true, Nat.pow_eq]
        omega
      · rw [String.toList_append, point, List.cons_append, List.nil_append, List.cons_append,
          fraction?_point (by decide) (by decide) (by rw [Nat.pow_eq]; omega)]
        simp [Nat.pow_eq]

/-- What follows the seconds is no digit. -/
theorem fractionText_ends (nanoseconds : Nat) :
    ∃ next rest, (fractionText nanoseconds).toList ++ ['Z'] = next :: rest ∧
      next.isDigit = false := by
  have point : ".".toList = ['.'] := rfl
  unfold fractionText
  split
  · exact ⟨'Z', [], rfl, rfl⟩
  · split
    · exact ⟨'.', _, by rw [String.toList_append, point]; rfl, rfl⟩
    · split
      · exact ⟨'.', _, by rw [String.toList_append, point]; rfl, rfl⟩
      · exact ⟨'.', _, by rw [String.toList_append, point]; rfl, rfl⟩

theorem time?_render {secondOfDay second nanoseconds : Nat} (day_range : secondOfDay < 86400)
    (second_range : second ≤ 60) (fits : nanoseconds < 1000000000) :
    time? ((padded 2 (secondOfDay / 3600)).toList ++
        ':' :: ((padded 2 (secondOfDay / 60 % 60)).toList ++
        ':' :: ((padded 2 second).toList ++ ((fractionText nanoseconds).toList ++ ['Z'])))) =
      some (if second = 60 then
          ((secondOfDay / 3600 * 3600 + secondOfDay / 60 % 60 * 60 + 59,
            nanoseconds + 1000000000), ['Z'])
        else ((secondOfDay / 3600 * 3600 + secondOfDay / 60 % 60 * 60 + second,
            nanoseconds), ['Z'])) := by
  have seconds :
      number? (some 2) ((padded 2 second).toList ++ ((fractionText nanoseconds).toList ++ ['Z']))
      = some (second, (fractionText nanoseconds).toList ++ ['Z']) := by
    obtain ⟨next, rest, follows, ends⟩ := fractionText_ends nanoseconds
    rw [follows]
    exact number?_padded (by omega) next ends
  unfold time?
  simp only [Option.bind_eq_bind, Option.bind_some, Option.pure_def,
    number?_padded (show secondOfDay / 3600 < 100 by omega) ':' rfl,
    number?_padded (show secondOfDay / 60 % 60 < 100 by omega) ':' rfl,
    afterSeparator?_cons ':' rfl, seconds, fraction?_fractionText fits]
  rw [if_neg (by omega)]
  split <;> rfl

theorem month_day_lt (date : CivilDate) (valid : date.isValid = true) :
    date.month < 100 ∧ date.day < 100 := by
  have longest : CivilDate.monthLength date.year date.month ≤ 31 := by
    unfold CivilDate.monthLength
    split
    · split <;> decide
    · split <;> decide
  simp only [CivilDate.isValid, Bool.and_eq_true, decide_eq_true_eq] at valid
  omega

/-- Reading the parts in the order in which they are written. -/
theorem parse?_of_parts {text : String} {date : CivilDate} {secondOfDay second nanoseconds : Nat}
    (text_eq : text = yearText date.year ++ "-" ++ padded 2 date.month ++ "-"
      ++ padded 2 date.day ++ "T" ++ padded 2 (secondOfDay / 3600) ++ ":"
      ++ padded 2 (secondOfDay / 60 % 60) ++ ":" ++ padded 2 second
      ++ fractionText nanoseconds ++ "Z")
    (valid : date.isValid = true) (day_range : secondOfDay < 86400) (second_range : second ≤ 60)
    (fits : nanoseconds < 1000000000) {instant : Instant}
    (seconds_eq : instant.seconds = date.toDays * 86400 +
      (secondOfDay / 3600 * 3600 + secondOfDay / 60 % 60 * 60 +
        if second = 60 then 59 else second : Nat))
    (nanoseconds_eq : instant.nanoseconds =
      if second = 60 then nanoseconds + 1000000000 else nanoseconds) :
    parse? text = some instant := by
  obtain ⟨monthShort, dayShort⟩ := month_day_lt date valid
  have dash : "-".toList = ['-'] := rfl
  have colon : ":".toList = [':'] := rfl
  have letter : "T".toList = ['T'] := rfl
  have zone : "Z".toList = ['Z'] := rfl
  have zoned : offset? (dropBlanks ['Z']) = some (0, []) := rfl
  have small : decide ((0 : Int).natAbs < 86400) = true := rfl
  have nothing : (dropBlanks []).isEmpty = true := rfl
  obtain ⟨seconds, nanos, inRange⟩ := instant
  simp only at seconds_eq nanoseconds_eq
  subst seconds_eq nanoseconds_eq
  unfold parse?
  simp only [text_eq, String.toList_append, dash, colon, letter, zone, List.append_assoc,
    List.cons_append,
    List.nil_append, date?_render date monthShort dayShort, Option.bind_eq_bind, Option.bind_some,
    time?_render day_range second_range fits]
  split <;> rename_i leap <;> simp only [leap, if_true, if_false] at inRange ⊢ <;>
    simp only [zoned, Option.bind_some, valid, small, nothing, Bool.and_self, if_true, Int.sub_zero,
      inRange, dite_true]

/-- A timestamp is read as the instant that it was written for. -/
theorem parse?_render (instant : Instant) : parse? instant.render = some instant := by
  have inRange := instant.inRange
  simp only [instantInRange, Bool.and_eq_true, decide_eq_true_eq] at inRange
  obtain ⟨year_range, fits⟩ := inRange
  have valid := CivilDate.ofDays_isValid _ year_range
  have days_eq := CivilDate.toDays_ofDays (instant.seconds / 86400)
  by_cases leap : 1000000000 ≤ instant.nanoseconds
  · have last : instant.seconds % 60 = 59 := by
      by_cases last : instant.seconds % 60 = 59
      · exact last
      · rw [if_neg last] at fits
        omega
    rw [if_pos last] at fits
    have second_eq : (instant.seconds % 86400).toNat % 60 + 1 = 60 := by omega
    apply parse?_of_parts (by simp only [render, leap, if_true]; rfl) valid (by omega)
      (by omega) (by omega)
    · rw [days_eq, if_pos second_eq]
      omega
    · rw [if_pos second_eq]
      omega
  · have other : (instant.seconds % 86400).toNat % 60 ≠ 60 := by omega
    apply parse?_of_parts (by simp only [render, leap, if_false]; rfl) valid (by omega)
      (by omega) (by omega)
    · rw [days_eq, if_neg other]
      omega
    · rw [if_neg other]

end Instant
end SignInFlow
