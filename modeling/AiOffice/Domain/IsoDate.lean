import AiOffice.Domain.Text
import Mathlib.Data.String.Basic
import Mathlib.Tactic.IntervalCases

namespace AiOffice.Domain

namespace IsoDate

structure CivilDate where
  year : Int
  month : Int
  day : Int
  deriving DecidableEq

/-- A day in a year that starts in March, so that a leap day is the last of its year. -/
structure MarchDate where
  year : Int
  dayOfYear : Int

def splitEra (dayOfEra : Int) : Int × Int :=
  let century := min (dayOfEra / 36524) 3
  let dayOfCentury := dayOfEra - century * 36524
  let cycle := dayOfCentury / 1461
  let dayOfCycle := dayOfCentury - cycle * 1461
  let yearOfCycle := min (dayOfCycle / 365) 3
  (century * 100 + cycle * 4 + yearOfCycle, dayOfCycle - yearOfCycle * 365)

theorem splitEra_days {dayOfEra : Int} (low : 0 ≤ dayOfEra) (high : dayOfEra < 146097) :
    (splitEra dayOfEra).1 * 365 + (splitEra dayOfEra).1 / 4 - (splitEra dayOfEra).1 / 100 + (splitEra dayOfEra).2 =
        dayOfEra ∧
      0 ≤ (splitEra dayOfEra).1 ∧ (splitEra dayOfEra).1 < 400 ∧
      0 ≤ (splitEra dayOfEra).2 ∧ (splitEra dayOfEra).2 ≤ 365 := by
  have century : 0 ≤ min (dayOfEra / 36524) 3 ∧ min (dayOfEra / 36524) 3 ≤ 3 ∧
      0 ≤ dayOfEra - min (dayOfEra / 36524) 3 * 36524 ∧ dayOfEra - min (dayOfEra / 36524) 3 * 36524 < 36525 := by omega
  unfold splitEra
  dsimp only
  generalize min (dayOfEra / 36524) 3 = first at century ⊢
  generalize rest : dayOfEra - first * 36524 = dayOfCentury at century ⊢
  have cycle : 0 ≤ dayOfCentury / 1461 ∧ dayOfCentury / 1461 ≤ 24 ∧
      0 ≤ dayOfCentury - dayOfCentury / 1461 * 1461 ∧ dayOfCentury - dayOfCentury / 1461 * 1461 ≤ 1460 := by omega
  generalize dayOfCentury / 1461 = second at cycle ⊢
  generalize later : dayOfCentury - second * 1461 = dayOfCycle at cycle ⊢
  have year : 0 ≤ min (dayOfCycle / 365) 3 ∧ min (dayOfCycle / 365) 3 ≤ 3 ∧
      0 ≤ dayOfCycle - min (dayOfCycle / 365) 3 * 365 ∧ dayOfCycle - min (dayOfCycle / 365) 3 * 365 ≤ 365 := by omega
  generalize min (dayOfCycle / 365) 3 = third at year ⊢
  have quarters : (first * 100 + second * 4 + third) / 4 = first * 25 + second := by omega
  have hundreds : (first * 100 + second * 4 + third) / 100 = first := by omega
  rw [quarters, hundreds]
  omega

def splitYear (dayOfYear : Int) : Int × Int :=
  let march := (5 * dayOfYear + 2) / 153
  (march, dayOfYear - (153 * march + 2) / 5 + 1)

theorem splitYear_days {dayOfYear : Int} (low : 0 ≤ dayOfYear) (high : dayOfYear ≤ 365) :
    (153 * (splitYear dayOfYear).1 + 2) / 5 + (splitYear dayOfYear).2 - 1 = dayOfYear ∧
      0 ≤ (splitYear dayOfYear).1 ∧ (splitYear dayOfYear).1 ≤ 11 ∧
      1 ≤ (splitYear dayOfYear).2 ∧ (splitYear dayOfYear).2 ≤ 31 := by
  unfold splitYear
  dsimp only
  omega

/-- The date of a day counted from the epoch, which is 719468 days after the start of an era. -/
def civilDate (days : Int) : CivilDate :=
  let shifted := days + 719468
  let era := splitEra (shifted % 146097)
  let month := splitYear era.2
  if month.1 < 10 then ⟨shifted / 146097 * 400 + era.1, month.1 + 3, month.2⟩
  else ⟨shifted / 146097 * 400 + era.1 + 1, month.1 - 9, month.2⟩

def daysOf (date : CivilDate) : Int :=
  let year := if date.month ≤ 2 then date.year - 1 else date.year
  let march := if date.month ≤ 2 then date.month + 9 else date.month - 3
  let yearOfEra := year % 400
  year / 400 * 146097 + (yearOfEra * 365 + yearOfEra / 4 - yearOfEra / 100) + ((153 * march + 2) / 5 + date.day - 1) -
    719468

theorem civilDate_days (days : Int) :
    daysOf (civilDate days) = days ∧ 1 ≤ (civilDate days).month ∧ (civilDate days).month ≤ 12 ∧
      1 ≤ (civilDate days).day ∧ (civilDate days).day ≤ 31 := by
  have era := splitEra_days (Int.emod_nonneg (days + 719468) (by decide))
    (Int.emod_lt_of_pos (days + 719468) (by decide : (0 : Int) < 146097))
  have year := splitYear_days era.2.2.2.1 era.2.2.2.2
  unfold civilDate
  dsimp only
  generalize splitYear (splitEra ((days + 719468) % 146097)).2 = month at year ⊢
  generalize splitEra ((days + 719468) % 146097) = yearOfEra at era year ⊢
  generalize number : (days + 719468) / 146097 = eraNumber
  have whole : eraNumber * 146097 + (days + 719468) % 146097 = days + 719468 := by omega
  have years : (eraNumber * 400 + yearOfEra.1) / 400 = eraNumber ∧ (eraNumber * 400 + yearOfEra.1) % 400 = yearOfEra.1 := by
    omega
  split
  · next early =>
    have late : ¬month.1 + 3 ≤ 2 := by omega
    have march : month.1 + 3 - 3 = month.1 := by omega
    simp only [daysOf, if_neg late, years.1, years.2, march]
    omega
  · next late =>
    have early : month.1 - 9 ≤ 2 := by omega
    have march : month.1 - 9 + 9 = month.1 := by omega
    have before : eraNumber * 400 + yearOfEra.1 + 1 - 1 = eraNumber * 400 + yearOfEra.1 := by omega
    simp only [daysOf, if_pos early, before, years.1, years.2, march]
    omega

def digit (value : Nat) : Char := Char.ofNat (48 + value)

def digitValue (char : Char) : Nat := char.toNat - 48

def twoDigits (value : Nat) : List Char := [digit (value / 10 % 10), digit (value % 10)]

def threeDigits (value : Nat) : List Char := digit (value / 100 % 10) :: twoDigits value

def fourDigits (value : Nat) : List Char := digit (value / 1000 % 10) :: threeDigits value

def sixDigits (value : Nat) : List Char := digit (value / 100000 % 10) :: digit (value / 10000 % 10) :: fourDigits value

def yearText (year : Int) : List Char :=
  if 0 ≤ year ∧ year ≤ 9999 then fourDigits year.natAbs
  else (if year < 0 then '-' else '+') :: sixDigits year.natAbs

def millisecondsPerDay : Int := 86400000

def isoText (day : Int) (clock : Nat) : String :=
  let date := civilDate day
  String.ofList (yearText date.year ++ ['-'] ++ twoDigits date.month.toNat ++ ['-'] ++ twoDigits date.day.toNat ++
    ['T'] ++ twoDigits (clock / 3600000) ++ [':'] ++ twoDigits (clock / 60000 % 60) ++ [':'] ++
    twoDigits (clock / 1000 % 60) ++ ['.'] ++ threeDigits (clock % 1000) ++ ['Z'])

def toISOString (time : Date) : String :=
  isoText (time / millisecondsPerDay) (time % millisecondsPerDay).toNat

def validTime (time : Date) : Bool := -8640000000000000 ≤ time && time ≤ 8640000000000000

def readRest (year : Int) : List Char → Option Date
  | [_, m, n, _, d, e, _, h, i, _, j, k, _, s, t, _, x, y, z, _] =>
    let two (tens ones : Char) : Int := digitValue tens * 10 + digitValue ones
    some (daysOf ⟨year, two m n, two d e⟩ * millisecondsPerDay + two h i * 3600000 + two j k * 60000 +
      two s t * 1000 + digitValue x * 100 + two y z)
  | _ => none

def readExtended (sign : Int) : List Char → Option Date
  | a :: b :: c :: d :: e :: f :: rest =>
    readRest (sign * (digitValue a * 100000 + digitValue b * 10000 + digitValue c * 1000 + digitValue d * 100 +
      digitValue e * 10 + digitValue f)) rest
  | _ => none

def readPlain : List Char → Option Date
  | a :: b :: c :: d :: rest =>
    readRest (digitValue a * 1000 + digitValue b * 100 + digitValue c * 10 + digitValue d) rest
  | _ => none

def readDate (chars : List Char) : Option Date :=
  if chars.head? = some '+' then readExtended 1 chars.tail
  else if chars.head? = some '-' then readExtended (-1) chars.tail
  else readPlain chars

/-- Whether a text is what `toISOString` makes of a time that a date can have. -/
def isTimestamp (value : String) : Bool :=
  (readDate value.toList).any fun time => validTime time && toISOString time = value

theorem digitValue_digit {value : Nat} (small : value < 10) : digitValue (digit value) = value := by
  interval_cases value <;> decide

theorem digit_ne {value : Nat} (small : value < 10) : digit value ≠ '+' ∧ digit value ≠ '-' := by
  interval_cases value <;> decide

private theorem mod_ten (value : Nat) : value % 10 < 10 := Nat.mod_lt _ (by decide)

theorem civilDate_year {days : Int} (low : -100000000 ≤ days) (high : days ≤ 100000000) :
    (civilDate days).year.natAbs < 1000000 := by
  have era := splitEra_days (Int.emod_nonneg (days + 719468) (by decide))
    (Int.emod_lt_of_pos (days + 719468) (by decide : (0 : Int) < 146097))
  unfold civilDate
  dsimp only
  generalize splitYear (splitEra ((days + 719468) % 146097)).2 = month
  generalize splitEra ((days + 719468) % 146097) = yearOfEra at era ⊢
  split <;> dsimp only <;> omega

theorem readRest_digits (year : Int) {month day hour minute second milli : Nat} (months : month < 100)
    (days : day < 100) (hours : hour < 100) (minutes : minute < 100) (seconds : second < 100) (millis : milli < 1000) :
    readRest year (['-'] ++ twoDigits month ++ ['-'] ++ twoDigits day ++ ['T'] ++ twoDigits hour ++ [':'] ++
      twoDigits minute ++ [':'] ++ twoDigits second ++ ['.'] ++ threeDigits milli ++ ['Z']) =
      some (daysOf ⟨year, month, day⟩ * millisecondsPerDay + hour * 3600000 + minute * 60000 + second * 1000 + milli) := by
  simp only [readRest, twoDigits, threeDigits, List.cons_append, List.nil_append, digitValue_digit (mod_ten _)]
  have two (value : Nat) (small : value < 100) : ((value / 10 % 10 : Nat) : Int) * 10 + (value % 10 : Nat) = value := by
    omega
  rw [two month months, two day days, two hour hours, two minute minutes, two second seconds]
  have three : ((milli / 100 % 10 : Nat) : Int) * 100 + (((milli / 10 % 10 : Nat) : Int) * 10 + (milli % 10 : Nat)) =
      milli := by omega
  rw [add_assoc, three]

theorem yearText_plain {year : Int} (plain : 0 ≤ year ∧ year ≤ 9999) (rest : List Char) :
    readDate (yearText year ++ rest) = readRest year rest := by
  have first := digit_ne (mod_ten (year.natAbs / 1000))
  rw [yearText, if_pos plain]
  simp only [fourDigits, threeDigits, twoDigits, List.cons_append, List.nil_append, readDate, List.head?_cons,
    Option.some.injEq, if_neg first.1, if_neg first.2, readPlain, digitValue_digit (mod_ten _)]
  congr 1
  omega

theorem yearText_extended {year : Int} (extended : ¬(0 ≤ year ∧ year ≤ 9999)) (small : year.natAbs < 1000000)
    (rest : List Char) : readDate (yearText year ++ rest) = readRest year rest := by
  rw [yearText, if_neg extended]
  split
  · simp only [sixDigits, fourDigits, threeDigits, twoDigits, List.cons_append, List.nil_append, readDate,
      List.head?_cons, Option.some.injEq, List.tail_cons, readExtended, digitValue_digit (mod_ten _)]
    rw [if_neg (by decide), if_pos trivial]
    congr 1
    omega
  · simp only [sixDigits, fourDigits, threeDigits, twoDigits, List.cons_append, List.nil_append, readDate,
      List.head?_cons, Option.some.injEq, List.tail_cons, readExtended, digitValue_digit (mod_ten _)]
    rw [if_pos trivial]
    congr 1
    omega

theorem readDate_isoText {day : Int} {clock : Nat} (low : -100000000 ≤ day) (high : day ≤ 100000000)
    (bound : clock < 86400000) : readDate (isoText day clock).toList = some (day * millisecondsPerDay + clock) := by
  have small := civilDate_year low high
  have inverse := civilDate_days day
  have year (others : List Char) : readDate (yearText (civilDate day).year ++ others) =
      readRest (civilDate day).year others := by
    by_cases plain : 0 ≤ (civilDate day).year ∧ (civilDate day).year ≤ 9999
    · exact yearText_plain plain others
    · exact yearText_extended plain small others
  have month : ((civilDate day).month.toNat : Int) = (civilDate day).month := by omega
  have dayOfMonth : ((civilDate day).day.toNat : Int) = (civilDate day).day := by omega
  have digits := readRest_digits (civilDate day).year (show (civilDate day).month.toNat < 100 by omega)
    (show (civilDate day).day.toNat < 100 by omega) (show clock / 3600000 < 100 by omega)
    (show clock / 60000 % 60 < 100 by omega) (show clock / 1000 % 60 < 100 by omega)
    (show clock % 1000 < 1000 by omega)
  simp only [List.append_assoc] at digits
  simp only [isoText, String.toList_ofList, List.append_assoc]
  rw [year, digits, month, dayOfMonth]
  congr 1
  change daysOf (civilDate day) * millisecondsPerDay + _ + _ + _ + _ = _
  rw [inverse.1]
  generalize (day * millisecondsPerDay : Int) = before
  omega

theorem readDate_toISOString {time : Date} (valid : validTime time = true) :
    readDate (toISOString time).toList = some time := by
  simp only [validTime, Bool.and_eq_true, decide_eq_true_eq] at valid
  have perDay : millisecondsPerDay = 86400000 := rfl
  have low : -100000000 ≤ time / millisecondsPerDay := by
    rw [perDay]
    exact Int.le_ediv_of_mul_le (by decide) valid.1
  have high : time / millisecondsPerDay ≤ 100000000 := by
    rw [perDay]
    exact Int.ediv_le_of_le_mul (by decide) valid.2
  have positive : 0 ≤ time % millisecondsPerDay := Int.emod_nonneg _ (by decide)
  have within : time % millisecondsPerDay < 86400000 := Int.emod_lt_of_pos _ (by decide)
  have clock : (time % millisecondsPerDay).toNat < 86400000 := by
    rw [Int.toNat_lt positive]
    exact within
  rw [toISOString, readDate_isoText low high clock, Int.toNat_of_nonneg positive]
  exact congrArg some (Int.ediv_mul_add_emod time millisecondsPerDay)

theorem isTimestamp_toISOString {time : Date} (valid : validTime time = true) : isTimestamp (toISOString time) = true := by
  rw [isTimestamp, readDate_toISOString valid, Option.any_some, valid, Bool.true_and, decide_eq_true_eq]

section Order

theorem append_lt_of_lt {field other rest later : List Char} (width : field.length = other.length)
    (earlier : field < other) : field ++ rest < other ++ later := by
  induction field generalizing other with
  | nil =>
    cases other with
    | nil => exact absurd earlier (List.lt_irrefl _)
    | cons _ _ => cases width
  | cons char field ih =>
    cases other with
    | nil => cases width
    | cons first other =>
      simp only [List.length_cons, Nat.add_right_cancel_iff] at width
      rw [List.cons_append, List.cons_append, List.cons_lt_cons_iff]
      rcases List.cons_lt_cons_iff.mp earlier with lower | ⟨rfl, lower⟩
      · exact .inl lower
      · exact .inr ⟨rfl, ih width lower⟩

theorem digit_lt {value other : Nat} (earlier : value < other) (small : other < 10) : digit value < digit other := by
  interval_cases other <;> interval_cases value <;> decide

private theorem digits_lt {first second : Nat} {rest others : List Char} (small : second < 10)
    (earlier : first < second ∨ first = second ∧ rest < others) : digit first :: rest < digit second :: others := by
  rw [List.cons_lt_cons_iff]
  rcases earlier with lower | ⟨rfl, lower⟩
  · exact .inl (digit_lt lower small)
  · exact .inr ⟨rfl, lower⟩

theorem twoDigits_lt {value other : Nat} (earlier : value % 100 < other % 100) : twoDigits value < twoDigits other := by
  apply digits_lt (mod_ten _)
  by_cases tens : value / 10 % 10 < other / 10 % 10
  · exact .inl tens
  · exact .inr ⟨by omega, digits_lt (mod_ten _) (.inl (by omega))⟩

theorem threeDigits_lt {value other : Nat} (earlier : value % 1000 < other % 1000) :
    threeDigits value < threeDigits other := by
  apply digits_lt (mod_ten _)
  by_cases hundreds : value / 100 % 10 < other / 100 % 10
  · exact .inl hundreds
  · exact .inr ⟨by omega, twoDigits_lt (by omega)⟩

theorem fourDigits_lt {value other : Nat} (earlier : value % 10000 < other % 10000) :
    fourDigits value < fourDigits other := by
  apply digits_lt (mod_ten _)
  by_cases thousands : value / 1000 % 10 < other / 1000 % 10
  · exact .inl thousands
  · exact .inr ⟨by omega, threeDigits_lt (by omega)⟩

def CivilDate.Before (date later : CivilDate) : Prop :=
  date.year < later.year ∨ date.year = later.year ∧
    (date.month < later.month ∨ date.month = later.month ∧ date.day < later.day)

private theorem splitEra_lt {day later : Int} (low : 0 ≤ day) (earlier : day < later) (high : later < 146097) :
    (splitEra day).1 < (splitEra later).1 ∨
      (splitEra day).1 = (splitEra later).1 ∧ (splitEra day).2 < (splitEra later).2 := by
  have first := splitEra_days low (by omega)
  have second := splitEra_days (show 0 ≤ later by omega) high
  generalize splitEra day = split at first ⊢
  generalize splitEra later = other at second ⊢
  -- A later year starts at least 365 days later: only the next one can be a century, which is a fourth year too.
  have next : split.1 = other.1 + 1 → other.1 / 4 - other.1 / 100 ≤ split.1 / 4 - split.1 / 100 := by
    intro following
    by_cases century : split.1 / 100 = other.1 / 100
    · omega
    · obtain ⟨start, whole⟩ : ∃ start, other.1 = 100 * start + 99 := ⟨other.1 / 100, by omega⟩
      omega
  have beyond : other.1 + 2 ≤ split.1 → other.1 / 4 - other.1 / 100 ≤ split.1 / 4 - split.1 / 100 + (split.1 - other.1) := by
    omega
  by_contra reversed
  rcases (show split.1 = other.1 + 1 ∨ other.1 + 2 ≤ split.1 ∨ split.1 = other.1 by omega) with later | later | same
  · have grown := next later
    omega
  · have grown := beyond later
    omega
  · rw [same] at first
    omega

private theorem splitYear_lt {day later : Int} (earlier : day < later) :
    (splitYear day).1 < (splitYear later).1 ∨
      (splitYear day).1 = (splitYear later).1 ∧ (splitYear day).2 < (splitYear later).2 := by
  unfold splitYear
  dsimp only
  omega

theorem civilDate_lt {days later : Int} (earlier : days < later) : (civilDate days).Before (civilDate later) := by
  have low := Int.emod_nonneg (days + 719468) (by decide : (146097 : Int) ≠ 0)
  have high := Int.emod_lt_of_pos (later + 719468) (by decide : (0 : Int) < 146097)
  have era := splitEra_days low (Int.emod_lt_of_pos _ (by decide))
  have laterEra := splitEra_days (Int.emod_nonneg (later + 719468) (by decide)) high
  have year := splitYear_days era.2.2.2.1 era.2.2.2.2
  have laterYear := splitYear_days laterEra.2.2.2.1 laterEra.2.2.2.2
  -- Within an era the split is monotone; between eras the years are 400 apart.
  have order : (days + 719468) / 146097 < (later + 719468) / 146097 ∨
      (days + 719468) / 146097 = (later + 719468) / 146097 ∧
        ((splitEra ((days + 719468) % 146097)).1 < (splitEra ((later + 719468) % 146097)).1 ∨
          (splitEra ((days + 719468) % 146097)).1 = (splitEra ((later + 719468) % 146097)).1 ∧
            (splitEra ((days + 719468) % 146097)).2 < (splitEra ((later + 719468) % 146097)).2) := by
    by_cases eras : (days + 719468) / 146097 < (later + 719468) / 146097
    · exact .inl eras
    · exact .inr ⟨by omega, splitEra_lt low (by omega) high⟩
  have months := @splitYear_lt (splitEra ((days + 719468) % 146097)).2 (splitEra ((later + 719468) % 146097)).2
  unfold civilDate CivilDate.Before
  dsimp only
  generalize splitYear (splitEra ((days + 719468) % 146097)).2 = month at months year ⊢
  generalize splitYear (splitEra ((later + 719468) % 146097)).2 = laterMonth at months laterYear ⊢
  generalize splitEra ((days + 719468) % 146097) = yearOfEra at order era months ⊢
  generalize splitEra ((later + 719468) % 146097) = laterYearOfEra at order laterEra months ⊢
  split <;> split <;> dsimp only <;> omega

def firstPlainTime : Int := -62167219200000

def lastPlainTime : Int := 253402300799999

theorem plain_year {time : Int} (low : firstPlainTime ≤ time) (high : time ≤ lastPlainTime) :
    0 ≤ (civilDate (time / millisecondsPerDay)).year ∧ (civilDate (time / millisecondsPerDay)).year ≤ 9999 := by
  have first : civilDate (-719528) = ⟨0, 1, 1⟩ := by decide
  have last : civilDate 2932896 = ⟨9999, 12, 31⟩ := by decide
  unfold firstPlainTime at low
  unfold lastPlainTime at high
  unfold millisecondsPerDay
  constructor
  · rcases (show -719528 < time / 86400000 ∨ time / 86400000 = -719528 by omega) with later | same
    · have order := civilDate_lt later
      simp only [first, CivilDate.Before] at order
      omega
    · simp [same, first]
  · rcases (show time / 86400000 < 2932896 ∨ time / 86400000 = 2932896 by omega) with earlier | same
    · have order := civilDate_lt earlier
      simp only [last, CivilDate.Before] at order
      omega
    · simp [same, last]

/-- The texts of times with plain years are in the order of the times. -/
theorem toISOString_lt {time later : Int} (low : firstPlainTime ≤ time) (earlier : time < later)
    (high : later ≤ lastPlainTime) : toISOString time < toISOString later := by
  have year := plain_year low (by omega)
  have laterYear := plain_year (show firstPlainTime ≤ later by omega) high
  have date := civilDate_days (time / millisecondsPerDay)
  have laterDate := civilDate_days (later / millisecondsPerDay)
  have perDay : millisecondsPerDay = 86400000 := rfl
  rw [String.lt_iff_toList_lt]
  simp only [toISOString, isoText, String.toList_ofList, yearText, if_pos year, if_pos laterYear]
  simp only [List.append_assoc]
  by_cases days : time / millisecondsPerDay < later / millisecondsPerDay
  · have order := civilDate_lt days
    unfold CivilDate.Before at order
    generalize civilDate (time / millisecondsPerDay) = first at order year date ⊢
    generalize civilDate (later / millisecondsPerDay) = second at order laterYear laterDate ⊢
    rcases order with years | ⟨sameYear, months | ⟨sameMonth, daysOfMonth⟩⟩
    · exact append_lt_of_lt rfl (fourDigits_lt (by omega))
    · rw [sameYear]
      refine List.append_left_lt (List.append_left_lt ?_)
      exact append_lt_of_lt rfl (twoDigits_lt (by omega))
    · rw [sameYear, sameMonth]
      refine List.append_left_lt (List.append_left_lt (List.append_left_lt (List.append_left_lt ?_)))
      exact append_lt_of_lt rfl (twoDigits_lt (by omega))
  · have sameDay : time / millisecondsPerDay = later / millisecondsPerDay := by
      rw [perDay] at *
      omega
    have clocks : (time % millisecondsPerDay).toNat < (later % millisecondsPerDay).toNat ∧
        (later % millisecondsPerDay).toNat < 86400000 := by
      rw [perDay] at *
      omega
    rw [sameDay]
    generalize (time % millisecondsPerDay).toNat = clock at clocks ⊢
    generalize (later % millisecondsPerDay).toNat = other at clocks ⊢
    refine List.append_left_lt (List.append_left_lt (List.append_left_lt (List.append_left_lt
      (List.append_left_lt (List.append_left_lt ?_)))))
    by_cases hours : clock / 3600000 < other / 3600000
    · exact append_lt_of_lt rfl (twoDigits_lt (by omega))
    rw [show clock / 3600000 = other / 3600000 by omega]
    refine List.append_left_lt (List.append_left_lt ?_)
    by_cases minutes : clock / 60000 % 60 < other / 60000 % 60
    · exact append_lt_of_lt rfl (twoDigits_lt (by omega))
    rw [show clock / 60000 % 60 = other / 60000 % 60 by omega]
    refine List.append_left_lt (List.append_left_lt ?_)
    by_cases seconds : clock / 1000 % 60 < other / 1000 % 60
    · exact append_lt_of_lt rfl (twoDigits_lt (by omega))
    rw [show clock / 1000 % 60 = other / 1000 % 60 by omega]
    refine List.append_left_lt (List.append_left_lt ?_)
    exact append_lt_of_lt rfl (threeDigits_lt (by omega))

theorem toISOString_lt_iff {time later : Int} (low : firstPlainTime ≤ time) (high : time ≤ lastPlainTime)
    (laterLow : firstPlainTime ≤ later) (laterHigh : later ≤ lastPlainTime) :
    toISOString time < toISOString later ↔ time < later := by
  constructor
  · intro order
    by_contra reversed
    rcases (show later < time ∨ later = time by omega) with before | rfl
    · exact lt_asymm order (toISOString_lt laterLow before high)
    · exact lt_irrefl _ order
  · exact fun earlier => toISOString_lt low earlier laterHigh

/-- The texts that are accepted as timestamps are those of the times that a date can have. No two times share a text, and
while the years are plain the order of the texts is that of the times. -/
theorem timestamps_canonical :
    (∀ text, isTimestamp text = true ↔ ∃ time, validTime time = true ∧ toISOString time = text) ∧
    (∀ time later, validTime time = true → validTime later = true → toISOString time = toISOString later → time = later) ∧
    ∀ time later, firstPlainTime ≤ time → time ≤ lastPlainTime → firstPlainTime ≤ later → later ≤ lastPlainTime →
      (toISOString time < toISOString later ↔ time < later) := by
  refine ⟨fun text => ⟨fun accepted => ?_, ?_⟩, fun time later valid validLater same => ?_, fun _ _ => toISOString_lt_iff⟩
  · cases read : readDate text.toList with
    | none => simp [isTimestamp, read] at accepted
    | some time => exact ⟨time, by simpa [isTimestamp, read] using accepted⟩
  · rintro ⟨time, valid, rfl⟩
    exact isTimestamp_toISOString valid
  · have reads := readDate_toISOString valid
    rw [same, readDate_toISOString validLater] at reads
    exact (Option.some.inj reads).symm

end Order

end IsoDate

end AiOffice.Domain
