import Mathlib.Data.List.Forall2
import Mathlib.Data.String.Basic
import TraceView.Proofs.Time.Reading

namespace TraceView.Time

/-!
# The order of wall-clock texts

All fields of a text but the year have a fixed width, so texts with one year sort like their instants.
The year has no zeros in front, and years of different lengths sort like texts and not like numbers.
From the year 1000 on all years have four digits.  There, and only there, texts have the full form, and
they sort like time.
-/

open Moment

/-! ## Fields of a fixed width -/

section

variable {width n k : Nat} {mark : Char} {more rest : List Char}

theorem padded_lt_iff (positive : 0 < width) (small : n < 10 ^ width) (other : k < 10 ^ width) :
    (padded width n).toList < (padded width k).toList ↔ n < k := by
  have lengths : (padded width n).toList.length = (padded width k).toList.length :=
    (length_padded positive small).trans (length_padded positive other).symm
  rw [Numeral.lt_iff_denoted_lt (fun c => isDigit_of_mem_padded) (fun c => isDigit_of_mem_padded)
    lengths, denoted_padded, denoted_padded]

theorem padded_inj : (padded width n).toList = (padded width k).toList ↔ n = k := by
  constructor
  · intro same
    rw [← denoted_padded width n, ← denoted_padded width k, same]
  · intro same
    rw [same]

/-- Texts that begin with a field and the same mark sort by the field, and then by what follows. -/
theorem padded_append_lt_iff (positive : 0 < width) (small : n < 10 ^ width)
    (other : k < 10 ^ width) :
    (padded width n).toList ++ mark :: more < (padded width k).toList ++ mark :: rest ↔
      n < k ∨ n = k ∧ more < rest := by
  have lengths : (padded width n).toList.length = (padded width k).toList.length :=
    (length_padded positive small).trans (length_padded positive other).symm
  rw [Numeral.append_lt_append_iff lengths, padded_lt_iff positive small other, padded_inj,
    List.cons_lt_cons_iff]
  simp only [Std.lt_irrefl, true_and, false_or]

end

/-! ## The order of texts -/

namespace Moment

variable {m n : Moment}

theorem IsProper.day_lt (proper : m.IsProper) : m.day < 10 ^ 2 := by
  have length : daysOfMonth m.year m.month ≤ 31 := by
    unfold daysOfMonth
    split
    · split <;> decide
    · split <;> decide
  have within := proper.day.2
  omega

/-- After the year, texts sort like the other fields of their moments. -/
theorem afterYear_lt_iff (proper : m.IsProper) (other : n.IsProper) :
    m.afterYear < n.afterYear ↔ m.fields.tail < n.fields.tail := by
  have day := proper.day_lt
  have otherDay := other.day_lt
  rcases proper with ⟨_, month, _, hour, minute, second, nano⟩
  rcases other with ⟨_, otherMonth, _, otherHour, otherMinute, otherSecond, otherNano⟩
  have irreflexive : ¬ '-' < '-' := Nat.lt_irrefl _
  simp only [afterYear, fields, List.tail_cons, List.cons_lt_cons_iff, irreflexive, true_and,
    false_or, List.not_lt_nil, and_false, or_false]
  rw [padded_append_lt_iff (by decide) (by omega) (by omega),
    padded_append_lt_iff (by decide) day otherDay,
    padded_append_lt_iff (by decide) (by omega) (by omega),
    padded_append_lt_iff (by decide) (by omega) (by omega),
    padded_append_lt_iff (by decide) (by omega) (by omega),
    padded_lt_iff (by decide) (by omega) (by omega)]

/-- Texts sort by the texts of their years, and in one year like their instants. -/
theorem text_lt_iff (proper : m.IsProper) (other : n.IsProper) :
    m.text < n.text ↔ toString m.year < toString n.year ∨
      m.year = n.year ∧ m.nanoseconds < n.nanoseconds := by
  have before : forall c : Char, c.isDigit = true -> '-' < c := by
    intro c digit
    exact Nat.lt_of_lt_of_le (by decide) (Numeral.digit_bounds digit).1
  have rest : m.year = n.year ->
      (m.afterYear < n.afterYear ↔ m.nanoseconds < n.nanoseconds) := by
    intro same
    rw [afterYear_lt_iff proper other, nanoseconds_lt_iff proper other]
    simp only [fields, List.tail_cons, List.cons_lt_cons_iff, same, Nat.lt_irrefl, true_and,
      false_or]
  have tails : m.afterYear.tail < n.afterYear.tail ↔ m.afterYear < n.afterYear := by
    change _ ↔ '-' :: m.afterYear.tail < '-' :: n.afterYear.tail
    simp only [List.cons_lt_cons_iff, Std.lt_irrefl, true_and, false_or]
  rw [String.lt_iff_toList_lt, String.lt_iff_toList_lt, toList_text, toList_text,
    Numeral.toList_toString, Numeral.toList_toString]
  change _ ++ '-' :: m.afterYear.tail < _ ++ '-' :: n.afterYear.tail ↔ _
  rw [Numeral.digits_append_lt_iff before (fun c => Numeral.isDigit_of_mem)
    (fun c => Numeral.isDigit_of_mem), tails, Numeral.toDigits_injective.eq_iff]
  exact or_congr_right (and_congr_right rest)

theorem length_year_iff {year : Nat} :
    (Nat.toDigits 10 year).length = 4 ↔ 1000 ≤ year ∧ year ≤ 9999 := by
  have most := @Nat.length_toDigits_le_iff 10 year 4 (by decide) (by decide)
  have less := @Nat.length_toDigits_le_iff 10 year 3 (by decide) (by decide)
  omega

/-- Moments of two years sort like the years. -/
theorem nanoseconds_lt_iff_year (proper : m.IsProper) (other : n.IsProper)
    (different : m.year ≠ n.year) : m.nanoseconds < n.nanoseconds ↔ m.year < n.year := by
  rw [nanoseconds_lt_iff proper other]
  simp only [fields, List.cons_lt_cons_iff, different, false_and, or_false]

/-- Texts sort like their moments exactly if the years sort like their own texts. -/
theorem text_le_iff (proper : m.IsProper) (other : n.IsProper) :
    (m.nanoseconds ≤ n.nanoseconds ↔ m.text ≤ n.text) ↔
      (m.year ≤ n.year ↔ toString m.year ≤ toString n.year) := by
  have texts := text_lt_iff other proper
  rw [← not_lt, ← not_lt, ← not_lt, ← not_lt, not_iff_not, not_iff_not]
  by_cases same : n.year = m.year
  · simp only [texts, same, lt_irrefl, true_and, false_or]
  · simp only [same, false_and, or_false] at texts
    rw [texts, nanoseconds_lt_iff_year other proper same]

/-- Years of four digits sort like their texts. -/
theorem toString_year_lt_iff (first : 1000 ≤ m.year ∧ m.year ≤ 9999)
    (second : 1000 ≤ n.year ∧ n.year ≤ 9999) :
    toString m.year < toString n.year ↔ m.year < n.year := by
  have lengths : (Nat.toDigits 10 m.year).length = (Nat.toDigits 10 n.year).length :=
    (length_year_iff.mpr first).trans (length_year_iff.mpr second).symm
  rw [String.lt_iff_toList_lt, Numeral.toList_toString, Numeral.toList_toString,
    Numeral.lt_iff_denoted_lt (fun c => Numeral.isDigit_of_mem) (fun c => Numeral.isDigit_of_mem)
      lengths, Numeral.denoted_toDigits, Numeral.denoted_toDigits]

end Moment

/-! ## The full form -/

/-- The full form of a text, with a zero in the place of each digit. -/
def fullForm : String :=
  "0000-00-00T00:00:00.000000000"

/-- A place of the form is filled by a digit, or it is a mark. -/
def Fills (place c : Char) : Prop :=
  if place = '0' then c.isDigit = true else c = place

/-- A text has each digit and each mark in its place. -/
def HasFullForm (text : String) : Prop :=
  List.Forall₂ Fills fullForm.toList text.toList

theorem fills_mark {mark : Char} (different : mark ≠ '0') : Fills mark mark := by
  rw [Fills, if_neg different]

theorem fills_digits {digits : List Char} (decimal : forall c, c ∈ digits -> c.isDigit = true) :
    List.Forall₂ Fills (List.replicate digits.length '0') digits := by
  induction digits with
  | nil => exact .nil
  | cons c rest inductionHypothesis =>
      rcases List.forall_mem_cons.mp decimal with ⟨digit, others⟩
      refine .cons ?_ (inductionHypothesis others)
      rw [Fills, if_pos rfl]
      exact digit

theorem fills_padded {width n : Nat} (positive : 0 < width) (small : n < 10 ^ width) :
    List.Forall₂ Fills (List.replicate width '0') (padded width n).toList := by
  have filled := fills_digits (fun c => @isDigit_of_mem_padded width n c)
  rw [length_padded positive small] at filled
  exact filled

theorem fills_append {form more : List Char} {field rest : List Char} {mark : Char}
    (filled : List.Forall₂ Fills form field) (different : mark ≠ '0')
    (others : List.Forall₂ Fills more rest) :
    List.Forall₂ Fills (form ++ mark :: more) (field ++ mark :: rest) :=
  List.rel_append filled (.cons (fills_mark different) others)

/-- The full form after the year. -/
def formAfterYear : List Char :=
  '-' :: (List.replicate 2 '0' ++ '-' :: (List.replicate 2 '0' ++ 'T' :: (List.replicate 2 '0' ++
    ':' :: (List.replicate 2 '0' ++ ':' :: (List.replicate 2 '0' ++ '.' :: List.replicate 9 '0')))))

theorem toList_fullForm : fullForm.toList = List.replicate 4 '0' ++ formAfterYear :=
  rfl

namespace Moment

variable {m n : Moment}

theorem fills_afterYear (proper : m.IsProper) : List.Forall₂ Fills formAfterYear m.afterYear := by
  have day := proper.day_lt
  rcases proper with ⟨_, month, _, hour, minute, second, nano⟩
  refine .cons (fills_mark (by decide)) ?_
  apply fills_append (fills_padded (by decide) (by omega)) (by decide)
  apply fills_append (fills_padded (by decide) day) (by decide)
  apply fills_append (fills_padded (by decide) (by omega)) (by decide)
  apply fills_append (fills_padded (by decide) (by omega)) (by decide)
  apply fills_append (fills_padded (by decide) (by omega)) (by decide)
  exact fills_padded (by decide) (by omega)

/-- The text of a moment has the full form exactly if its year has four digits. -/
theorem hasFullForm_text_iff (proper : m.IsProper) :
    HasFullForm m.text ↔ 1000 ≤ m.year ∧ m.year ≤ 9999 := by
  have after := fills_afterYear proper
  rw [← length_year_iff, HasFullForm, toList_fullForm, toList_text]
  constructor
  · intro filled
    have lengths := filled.length_eq
    rw [List.length_append, List.length_append, after.length_eq, List.length_replicate] at lengths
    exact (Nat.add_right_cancel lengths).symm
  · intro four
    have year := fills_digits fun c => @Numeral.isDigit_of_mem m.year c
    rw [four] at year
    exact List.rel_append year after

def fourDigits : Moment := ⟨1000, 1, 1, 0, 0, 0, 0⟩

theorem dayNumber_fourDigits : fourDigits.dayNumber = 364877 := by
  rw [dayNumber, daysOfYears_eq]
  rfl

theorem nanoseconds_fourDigits : fourDigits.nanoseconds = -30610224000000000000 := by
  have seconds : fourDigits.secondOfDay = 0 := rfl
  have nano : fourDigits.nano = 0 := rfl
  rw [nanoseconds, dayNumber_epoch, dayNumber_fourDigits, seconds, nano, epochDay]
  omega

theorem isProper_fourDigits : fourDigits.IsProper := by
  constructor <;> decide

theorem fourDigits_le_iff (proper : m.IsProper) :
    fourDigits.nanoseconds ≤ m.nanoseconds ↔ 1000 ≤ m.year := by
  rw [← Int.not_lt, nanoseconds_lt_iff proper isProper_fourDigits, ← Nat.not_lt, not_iff_not]
  have month := proper.month.1
  have day := proper.day.1
  simp only [fields, fourDigits, List.cons_lt_cons_iff, List.not_lt_nil, and_false, or_false]
  omega

end Moment

/-! ## Instants -/

open Moment

theorem hasFullForm_iff {ns : Int} (inside : InYears ns) :
    HasFullForm (realText ns) ↔ fourDigits.nanoseconds ≤ ns := by
  rcases realText_of_inYears inside with ⟨m, shown, proper, last, instant⟩
  rw [shown, hasFullForm_text_iff proper, ← instant, fourDigits_le_iff proper]
  exact and_iff_left last

/-- Two instants are instants of moments, and their texts have the full form from the year 1000 on.
The texts sort like the instants exactly if the years sort like their own texts, as they do from the
year 1000 on. -/
theorem realText_sorted {first second : Int} (inside : InYears first) (within : InYears second) :
    (HasFullForm (realText first) ↔ fourDigits.nanoseconds ≤ first) ∧
      (HasFullForm (realText second) ↔ fourDigits.nanoseconds ≤ second) ∧
      (Exists fun m : Moment => Exists fun n : Moment =>
        (m.IsProper ∧ m.nanoseconds = first) ∧ (n.IsProper ∧ n.nanoseconds = second) ∧
          ((first ≤ second ↔ realText first ≤ realText second) ↔
            (m.year ≤ n.year ↔ toString m.year ≤ toString n.year))) ∧
      (fourDigits.nanoseconds ≤ first -> fourDigits.nanoseconds ≤ second ->
        (first ≤ second ↔ realText first ≤ realText second)) := by
  rcases realText_of_inYears inside with ⟨m, shown, proper, last, instant⟩
  rcases realText_of_inYears within with ⟨n, shownToo, other, lastToo, instantToo⟩
  have sorted := text_le_iff proper other
  rw [← shown, ← shownToo, instant, instantToo] at sorted
  refine ⟨hasFullForm_iff inside, hasFullForm_iff within,
    ⟨m, n, ⟨proper, instant⟩, ⟨other, instantToo⟩, sorted⟩, ?_⟩
  intro late lateToo
  rw [← instant, fourDigits_le_iff proper] at late
  rw [← instantToo, fourDigits_le_iff other] at lateToo
  apply sorted.mpr
  rw [← not_lt, ← not_lt, not_iff_not]
  exact (toString_year_lt_iff ⟨lateToo, lastToo⟩ ⟨late, last⟩).symm

/-- The text of the last nanosecond before 1970 comes before the text of the beginning of 1970. -/
theorem lastNanosecond_sorted :
    InYears (-1) ∧ InYears 0 ∧ HasFullForm (realText (-1)) ∧ HasFullForm (realText 0) ∧
      realText (-1) ≤ realText 0 := by
  have inside : InYears (-1) := inYears_of_bounds (by decide) (by decide)
  have within : InYears 0 := inYears_of_bounds (by decide) (by decide)
  rcases realText_sorted inside within with ⟨form, otherForm, _, sorted⟩
  have late : fourDigits.nanoseconds ≤ -1 := by
    rw [nanoseconds_fourDigits]
    omega
  have lateToo : fourDigits.nanoseconds ≤ 0 := Int.le_trans late (by decide)
  exact ⟨inside, within, form.mpr late, otherForm.mpr lateToo, (sorted late lateToo).mp (by decide)⟩

/-- The last nanosecond of the year 999 comes before the year 1000, but its text does not have the full
form, and it does not come before the text of the beginning of the year 1000. -/
theorem threeDigits_unsorted :
    InYears (-30610224000000000001) ∧ InYears (-30610224000000000000) ∧
      (-30610224000000000001 : Int) ≤ -30610224000000000000 ∧
      realText (-30610224000000000001) = "999-12-31T23:59:59.999999999" ∧
      realText (-30610224000000000000) = "1000-01-01T00:00:00.000000000" ∧
      ¬ HasFullForm (realText (-30610224000000000001)) ∧
      ¬ realText (-30610224000000000001) ≤ realText (-30610224000000000000) := by
  have inside : InYears (-30610224000000000001) := inYears_of_bounds (by decide) (by decide)
  have within : InYears (-30610224000000000000) := inYears_of_bounds (by decide) (by decide)
  have first : realText (-30610224000000000001) = "999-12-31T23:59:59.999999999" := by
    decide +kernel
  have second : realText (-30610224000000000000) = "1000-01-01T00:00:00.000000000" := by
    decide +kernel
  refine ⟨inside, within, by decide, first, second, ?_, ?_⟩
  · rw [hasFullForm_iff inside, nanoseconds_fourDigits]
    omega
  · rw [first, second]
    decide

end TraceView.Time
