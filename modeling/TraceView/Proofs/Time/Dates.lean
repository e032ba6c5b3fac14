import Mathlib.Algebra.GroupWithZero.Nat
import Mathlib.Data.List.Lex
import TraceView.Time.Calendar

namespace TraceView.Time

/-!
# Dates counted day by day

The calendar is given here as it is kept: a year has the days of its months, and a date lies so many
years, months and days after the first day of year 1.  This says which instant the fields of a moment
denote.  The fields that are calculated from an instant denote it again, and no other fields of a date
and a time of day do, so instants and moments have one order.
-/

/-! ## Years and months -/

/-- A leap year is divisible by four, and by four hundred if it is divisible by a hundred. -/
def LeapYear (year : Nat) : Prop :=
  year % 4 = 0 ∧ (year % 100 = 0 -> year % 400 = 0)

instance LeapYear.decidable (year : Nat) : Decidable (LeapYear year) :=
  inferInstanceAs (Decidable (_ ∧ _))

/-- The number of days of a month. -/
def daysOfMonth (year month : Nat) : Nat :=
  if month = 2 then if LeapYear year then 29 else 28
  else if month = 4 ∨ month = 6 ∨ month = 9 ∨ month = 11 then 30
  else 31

/-- The number of days of the first months of a year. -/
def daysOfMonths (year : Nat) : Nat -> Nat
  | 0 => 0
  | past + 1 => daysOfMonths year past + daysOfMonth year (past + 1)

/-- The number of days of the years from 1 up to a year. -/
def daysOfYears : Nat -> Nat
  | 0 => 0
  | past + 1 => daysOfYears past + daysOfMonths (past + 1) 12

theorem isLeap_iff {year : Nat} : isLeap year = true ↔ LeapYear year := by
  simp only [isLeap, Bool.and_eq_true, Bool.or_eq_true, beq_iff_eq, bne_iff_ne, LeapYear,
    Decidable.imp_iff_not_or, ne_eq]

theorem daysOfYear_eq (year : Nat) : daysOfMonths year 12 = if LeapYear year then 366 else 365 := by
  by_cases leap : LeapYear year <;> simp [daysOfMonths, daysOfMonth, leap]

/-- The leap years among the first years are counted by three divisions. -/
theorem daysOfYears_eq (past : Nat) :
    daysOfYears past = 365 * past + past / 4 - past / 100 + past / 400 := by
  induction past with
  | zero => rfl
  | succ past inductionHypothesis =>
      rw [daysOfYears, inductionHypothesis, daysOfYear_eq]
      by_cases leap : LeapYear (past + 1)
      · rw [if_pos leap]
        unfold LeapYear at leap
        omega
      · rw [if_neg leap]
        unfold LeapYear at leap
        omega

theorem daysBeforeYear_eq (year : Nat) : daysBeforeYear year = daysOfYears (year - 1) :=
  (daysOfYears_eq (year - 1)).symm

theorem daysOfYears_mono {past later : Nat} (earlier : past ≤ later) :
    daysOfYears past ≤ daysOfYears later := by
  induction earlier with
  | refl => exact Nat.le_refl _
  | step _ inductionHypothesis => exact Nat.le_trans inductionHypothesis (Nat.le_add_right _ _)

theorem daysOfMonths_mono (year : Nat) {past later : Nat} (earlier : past ≤ later) :
    daysOfMonths year past ≤ daysOfMonths year later := by
  induction earlier with
  | refl => exact Nat.le_refl _
  | step _ inductionHypothesis => exact Nat.le_trans inductionHypothesis (Nat.le_add_right _ _)

theorem monthLengths_eq (year : Nat) :
    monthLengths year = (List.range' 1 12).map (daysOfMonth year) := by
  unfold monthLengths
  by_cases leap : LeapYear year
  · rw [if_pos (isLeap_iff.mpr leap)]
    simp [List.range', daysOfMonth, leap]
  · rw [if_neg (mt isLeap_iff.mp leap)]
    simp [List.range', daysOfMonth, leap]

theorem getElem?_monthLengths (year : Nat) {position : Nat} (listed : position < 12) :
    (monthLengths year)[position]? = some (daysOfMonth year (position + 1)) := by
  rw [monthLengths_eq, List.getElem?_map, List.getElem?_range' listed, Option.map_some, Nat.one_mul,
    Nat.add_comm]

theorem sum_take_monthLengths (year : Nat) {count : Nat} (within : count ≤ 12) :
    ((monthLengths year).take count).sum = daysOfMonths year count := by
  induction count with
  | zero => rfl
  | succ count inductionHypothesis =>
      rw [List.take_add_one, getElem?_monthLengths year within, List.sum_append,
        inductionHypothesis (Nat.le_of_succ_le within), daysOfMonths]
      rfl

/-- A day falls in the month before whose end and not before whose beginning it lies. -/
theorem monthAndDay_spec (first : Nat) {lengths : List Nat} {day : Nat} (within : day < lengths.sum) :
    Exists fun position : Nat => Exists fun rest : Nat => Exists fun length : Nat =>
      monthAndDay first lengths day = (first + position, rest + 1) ∧
        lengths[position]? = some length ∧ rest < length ∧
        (lengths.take position).sum + rest = day := by
  induction lengths generalizing first day with
  | nil => cases within
  | cons length others inductionHypothesis =>
      unfold monthAndDay
      by_cases here : day < length
      · rw [if_pos here]
        exact ⟨0, day, length, rfl, rfl, here, Nat.zero_add day⟩
      · rw [if_neg here]
        rw [List.sum_cons] at within
        have later : day - length < others.sum := by omega
        rcases inductionHypothesis (first + 1) later with
          ⟨position, rest, length, found, listed, small, total⟩
        refine ⟨position + 1, rest, length, ?_, listed, small, ?_⟩
        · rw [found, Nat.add_assoc, Nat.add_comm 1]
        · rw [List.take_succ_cons, List.sum_cons]
          omega

/-! ## Moments -/

namespace Moment

/-- The fields are those of a date and a time of day. -/
structure IsProper (m : Moment) : Prop where
  year : 1 ≤ m.year
  month : 1 ≤ m.month ∧ m.month ≤ 12
  day : 1 ≤ m.day ∧ m.day ≤ daysOfMonth m.year m.month
  hour : m.hour < 24
  minute : m.minute < 60
  second : m.second < 60
  nano : m.nano < 1000000000

/-- The days before the day of a moment, counted from the first day of year 1. -/
def dayNumber (m : Moment) : Nat :=
  daysOfYears (m.year - 1) + daysOfMonths m.year (m.month - 1) + (m.day - 1)

def epoch : Moment := ⟨1970, 1, 1, 0, 0, 0, 0⟩

def earliest : Moment := ⟨1, 1, 1, 0, 0, 0, 0⟩

def latest : Moment := ⟨9999, 12, 31, 23, 59, 59, 999999999⟩

/-- The seconds of the day before a moment. -/
def secondOfDay (m : Moment) : Nat :=
  m.hour * 3600 + m.minute * 60 + m.second

/-- The nanoseconds from the beginning of 1970 to a moment. -/
def nanoseconds (m : Moment) : Int :=
  (((m.dayNumber : Int) - epoch.dayNumber) * 86400 + m.secondOfDay) * 1000000000 + m.nano

/-- The fields of a moment, those of the longer periods first. -/
def fields (m : Moment) : List Nat :=
  [m.year, m.month, m.day, m.hour, m.minute, m.second, m.nano]

variable {m n : Moment}

theorem dayNumber_epoch : epoch.dayNumber = epochDay := by
  rw [dayNumber, daysOfYears_eq]
  rfl

theorem dayNumber_latest : latest.dayNumber = dayCount - 1 := by
  rw [dayNumber, daysOfYears_eq]
  rfl

/-! ## The order of moments -/

/-- The days of a month come before those of the months after it. -/
theorem daysOfMonths_step (proper : m.IsProper) {later : Nat} (after : m.month ≤ later) :
    daysOfMonths m.year (m.month - 1) + (m.day - 1) < daysOfMonths m.year later := by
  have month : m.month = m.month - 1 + 1 := (Nat.sub_add_cancel proper.month.1).symm
  have grown : daysOfMonths m.year m.month =
      daysOfMonths m.year (m.month - 1) + daysOfMonth m.year m.month := by
    conv_lhs => rw [month, daysOfMonths, ← month]
  have others := daysOfMonths_mono m.year after
  have days := proper.day
  omega

/-- The days of a year come before those of the years after it. -/
theorem daysOfYears_step (proper : m.IsProper) {later : Nat} (after : m.year ≤ later) :
    m.dayNumber < daysOfYears later := by
  have year : m.year = m.year - 1 + 1 := (Nat.sub_add_cancel proper.year).symm
  have grown : daysOfYears m.year = daysOfYears (m.year - 1) + daysOfMonths m.year 12 := by
    conv_lhs => rw [year, daysOfYears, ← year]
  have others := daysOfYears_mono after
  have within := daysOfMonths_step proper proper.month.2
  unfold dayNumber
  omega

theorem dayNumber_lt_of_year (proper : m.IsProper) (earlier : m.year < n.year) :
    m.dayNumber < n.dayNumber := by
  calc m.dayNumber
      < daysOfYears (n.year - 1) := daysOfYears_step proper (Nat.le_sub_one_of_lt earlier)
    _ ≤ daysOfYears (n.year - 1) + (daysOfMonths n.year (n.month - 1) + (n.day - 1)) :=
        Nat.le_add_right _ _
    _ = n.dayNumber := (Nat.add_assoc _ _ _).symm

theorem dayNumber_lt_of_month (proper : m.IsProper) (same : m.year = n.year)
    (earlier : m.month < n.month) : m.dayNumber < n.dayNumber := by
  have months := daysOfMonths_step proper (Nat.le_sub_one_of_lt earlier)
  unfold dayNumber
  rw [← same]
  omega

theorem dayNumber_lt_of_day (proper : m.IsProper) (sameYear : m.year = n.year)
    (sameMonth : m.month = n.month) (earlier : m.day < n.day) : m.dayNumber < n.dayNumber := by
  have first := proper.day.1
  unfold dayNumber
  rw [← sameYear, ← sameMonth]
  omega

/-- A moment on an earlier day is earlier, whatever the time of day. -/
theorem nanoseconds_lt_of_dayNumber (proper : m.IsProper) (earlier : m.dayNumber < n.dayNumber) :
    m.nanoseconds < n.nanoseconds := by
  rcases proper with ⟨_, _, _, hour, minute, second, nano⟩
  unfold nanoseconds secondOfDay
  omega

/-- Moments are as far from 1970 as their fields say, compared one after the other. -/
theorem nanoseconds_lt_of_fields (proper : m.IsProper) (earlier : m.fields < n.fields) :
    m.nanoseconds < n.nanoseconds := by
  simp only [fields, List.cons_lt_cons_iff, List.not_lt_nil, and_false, or_false] at earlier
  rcases earlier with year | ⟨year, month | ⟨month, day | ⟨day, rest⟩⟩⟩
  · exact nanoseconds_lt_of_dayNumber proper (dayNumber_lt_of_year proper year)
  · exact nanoseconds_lt_of_dayNumber proper (dayNumber_lt_of_month proper year month)
  · exact nanoseconds_lt_of_dayNumber proper (dayNumber_lt_of_day proper year month day)
  · have same : m.dayNumber = n.dayNumber := by
      rw [dayNumber, dayNumber, year, month, day]
    rcases proper with ⟨_, _, _, _, minute, second, nano⟩
    unfold nanoseconds secondOfDay
    rw [same]
    omega

theorem eq_of_fields (same : m.fields = n.fields) : m = n := by
  cases m
  cases n
  simpa only [fields, List.cons.injEq, and_true, mk.injEq] using same

/-- Instants and moments have one order. -/
theorem nanoseconds_lt_iff (proper : m.IsProper) (other : n.IsProper) :
    m.nanoseconds < n.nanoseconds ↔ m.fields < n.fields := by
  constructor
  · intro earlier
    rcases lt_trichotomy m.fields n.fields with before | same | after
    · exact before
    · rw [eq_of_fields same] at earlier
      exact absurd earlier (Int.lt_irrefl _)
    · exact absurd (nanoseconds_lt_of_fields other after) (Int.not_lt.mpr (Int.le_of_lt earlier))
  · exact nanoseconds_lt_of_fields proper

/-! ## Instants -/

/-- An instant lies in the years that can be written. -/
def InYears (ns : Int) : Prop :=
  earliest.nanoseconds ≤ ns ∧ ns ≤ latest.nanoseconds

theorem nanoseconds_earliest : earliest.nanoseconds = -62135596800000000000 := by
  rw [nanoseconds, dayNumber_epoch]
  rfl

theorem nanoseconds_latest : latest.nanoseconds = 253402300799999999999 := by
  rw [nanoseconds, dayNumber_epoch, dayNumber_latest]
  rfl

theorem yearLength_eq (year : Nat) : (monthLengths year).sum = daysOfMonths year 12 := by
  rw [← sum_take_monthLengths year (Nat.le_refl 12)]
  rfl

theorem daysOfYears_last : daysOfYears 9999 = dayCount := by
  rw [daysOfYears_eq]
  rfl

/-- The year of a day that can be written is one that can be written, and has the day. -/
theorem yearOfDay_spec {day : Nat} (within : day < dayCount) :
    1 ≤ yearOfDay day ∧ yearOfDay day ≤ 9999 ∧
      day - daysBeforeYear (yearOfDay day) < (monthLengths (yearOfDay day)).sum ∧
      daysOfYears (yearOfDay day - 1) ≤ day := by
  rcases yearOfDay_bounds day with ⟨begun, ended⟩
  generalize yearOfDay day = year at begun ended
  rw [daysBeforeYear_eq] at begun ended ⊢
  rw [Nat.add_sub_cancel] at ended
  rw [yearLength_eq]
  cases year with
  | zero => cases ended
  | succ past =>
      rw [daysOfYears] at ended
      rw [Nat.add_sub_cancel] at begun ⊢
      refine ⟨Nat.succ_pos past, ?_, by omega, begun⟩
      apply Nat.le_of_not_lt
      intro beyond
      have counted := daysOfYears_mono (Nat.le_of_lt_succ beyond)
      rw [daysOfYears_last] at counted
      omega

/-- The date of a day has as many days before it as the day. -/
theorem date_spec {day : Nat} (within : day < dayCount) (m : Moment)
    (year : m.year = yearOfDay day)
    (date : monthAndDay 1 (monthLengths m.year) (day - daysBeforeYear m.year) = (m.month, m.day)) :
    (1 ≤ m.year ∧ m.year ≤ 9999) ∧ (1 ≤ m.month ∧ m.month ≤ 12) ∧
      (1 ≤ m.day ∧ m.day ≤ daysOfMonth m.year m.month) ∧ m.dayNumber = day := by
  rcases yearOfDay_spec within with ⟨first, last, inYear, begun⟩
  rw [← year] at first last inYear begun
  rcases monthAndDay_spec 1 inYear with ⟨position, rest, length, found, listed, small, total⟩
  rcases Prod.mk.inj (date.symm.trans found) with ⟨month, dayOfMonth⟩
  have twelve : position < 12 := (List.getElem?_eq_some_iff.mp listed).1
  have place : m.month - 1 = position := by omega
  rw [getElem?_monthLengths m.year twelve, Nat.add_comm, ← month, Option.some.injEq] at listed
  rw [daysBeforeYear_eq, sum_take_monthLengths m.year (Nat.le_of_lt twelve)] at total
  unfold dayNumber
  rw [place]
  refine ⟨⟨first, last⟩, ?_, ?_, ?_⟩ <;> omega

/-- Hours, minutes and seconds are those of the seconds of a day. -/
theorem clock_spec (seconds : Nat) :
    seconds / 3600 * 3600 + seconds / 60 % 60 * 60 + seconds % 60 = seconds := by
  omega

/-- The fields of an instant are those of a moment, which is as far from 1970 as the instant. -/
theorem ofNanoseconds?_eq_some {ns : Int} (found : ofNanoseconds? ns = some m) :
    m.IsProper ∧ m.year ≤ 9999 ∧ m.nanoseconds = ns := by
  unfold ofNanoseconds? at found
  simp only [Bool.and_eq_true, decide_eq_true_eq] at found
  by_cases inside : 0 ≤ ns / 1000000000 / 86400 + (epochDay : Int) ∧
      ns / 1000000000 / 86400 + (epochDay : Int) < dayCount
  · rw [if_pos inside] at found
    generalize counted : ns / 1000000000 / 86400 + (epochDay : Int) = day at inside found
    have within : day.toNat < dayCount := by omega
    rcases date_spec within m (by cases found; rfl) (by cases found; rfl) with
      ⟨years, months, days, number⟩
    cases found
    refine ⟨⟨years.1, months, days, ?_, ?_, ?_, ?_⟩, years.2, ?_⟩
    · change (ns / 1000000000 % 86400).toNat / 3600 < 24
      omega
    · exact Nat.mod_lt _ (by decide)
    · exact Nat.mod_lt _ (by decide)
    · change (ns % 1000000000).toNat < 1000000000
      omega
    · rw [nanoseconds, number, dayNumber_epoch]
      simp only [secondOfDay, clock_spec]
      omega
  · rw [if_neg inside] at found
    cases found

theorem isSome_ofNanoseconds?_iff {ns : Int} : (ofNanoseconds? ns).isSome = true ↔ InYears ns := by
  rw [InYears, nanoseconds_earliest, nanoseconds_latest]
  unfold ofNanoseconds?
  simp only [Bool.and_eq_true, decide_eq_true_eq]
  by_cases inside : 0 ≤ ns / 1000000000 / 86400 + (epochDay : Int) ∧
      ns / 1000000000 / 86400 + (epochDay : Int) < dayCount
  · rw [if_pos inside]
    unfold epochDay dayCount at inside
    refine iff_of_true rfl ?_
    omega
  · rw [if_neg inside]
    unfold epochDay dayCount at inside
    refine iff_of_false Bool.false_ne_true ?_
    omega

/-- An instant has fields exactly if it lies in the years that can be written. -/
theorem ofNanoseconds?_of_inYears {ns : Int} (inside : InYears ns) :
    Exists fun m : Moment => ofNanoseconds? ns = some m ∧ m.IsProper ∧ m.year ≤ 9999 ∧
      m.nanoseconds = ns := by
  rcases Option.isSome_iff_exists.mp (isSome_ofNanoseconds?_iff.mpr inside) with ⟨m, found⟩
  exact ⟨m, found, ofNanoseconds?_eq_some found⟩

end Moment

end TraceView.Time
