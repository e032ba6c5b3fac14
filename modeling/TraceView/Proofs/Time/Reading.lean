import Mathlib.Algebra.Group.Int.Defs
import TraceView.Proofs.Formatter
import TraceView.Proofs.Number.Digits
import TraceView.Proofs.Time.Dates

namespace TraceView.Time

/-!
# Reading wall-clock times

The text of an instant is read back field by field, up to the mark after each field.  The fields that
are read are those of the instant, so texts denote instants exactly, and instants that can be written
have different texts.
-/

/-! ## Fields of a fixed width -/

section

variable {width n : Nat}

theorem toList_padded (width n : Nat) :
    (padded width n).toList =
      List.replicate (width - (Nat.toDigits 10 n).length) '0' ++ Nat.toDigits 10 n :=
  String.toList_ofList

theorem isDigit_of_mem_padded {c : Char} (member : c ∈ (padded width n).toList) :
    c.isDigit = true := by
  rw [toList_padded] at member
  rcases List.mem_append.mp member with zero | digit
  · rw [List.eq_of_mem_replicate zero]
    rfl
  · exact Numeral.isDigit_of_mem digit

theorem denoted_padded (width n : Nat) : Numeral.denoted (padded width n).toList = n := by
  rw [toList_padded, Numeral.denoted_zeros, Numeral.denoted_toDigits]

theorem length_padded (positive : 0 < width) (small : n < 10 ^ width) :
    (padded width n).toList.length = width := by
  have short := (Nat.length_toDigits_le_iff (by decide) positive).mpr small
  rw [toList_padded, List.length_append, List.length_replicate]
  exact Nat.sub_add_cancel short

theorem padded_ne_nil (width n : Nat) : (padded width n).toList ≠ [] := by
  rw [toList_padded]
  exact List.append_ne_nil_of_right_ne_nil _ Nat.toDigits_ne_nil

end

/-! ## The layout of texts -/

namespace Moment

/-- The text of a moment from the end of its year on. -/
def afterYear (m : Moment) : List Char :=
  '-' :: ((padded 2 m.month).toList ++ '-' :: ((padded 2 m.day).toList ++
    'T' :: ((padded 2 m.hour).toList ++ ':' :: ((padded 2 m.minute).toList ++
      ':' :: ((padded 2 m.second).toList ++ '.' :: (padded 9 m.nano).toList)))))

theorem toList_text (m : Moment) : m.text.toList = Nat.toDigits 10 m.year ++ m.afterYear := by
  have dash : "-".toList = ['-'] := rfl
  have letter : "T".toList = ['T'] := rfl
  have colon : ":".toList = [':'] := rfl
  have point : ".".toList = ['.'] := rfl
  unfold text afterYear
  simp only [String.toList_append, Numeral.toList_toString, dash, letter, colon, point,
    List.append_assoc, List.cons_append, List.nil_append]

/-! ## Reading -/

/-- The number that a text of decimal digits denotes. -/
def number? (text : List Char) : Option Nat :=
  if text ≠ [] ∧ text.all Char.isDigit then some (Numeral.denoted text) else none

/-- The number that stands before a mark, and the text after the mark. -/
def numberBefore? (mark : Char) (text : List Char) : Option (Nat × List Char) :=
  match text.dropWhile Char.isDigit with
  | [] => none
  | next :: rest =>
    if next = mark then
      (number? (text.takeWhile Char.isDigit)).map fun number => (number, rest)
    else none

/-- The moment whose fields stand in a text, each before its mark, with nine digits of a second at
the end. -/
def read? (text : String) : Option Moment := do
  let (year, text) <- numberBefore? '-' text.toList
  let (month, text) <- numberBefore? '-' text
  let (day, text) <- numberBefore? 'T' text
  let (hour, text) <- numberBefore? ':' text
  let (minute, text) <- numberBefore? ':' text
  let (second, text) <- numberBefore? '.' text
  let nano <- if text.length = 9 then number? text else none
  some ⟨year, month, day, hour, minute, second, nano⟩

theorem number?_of_digits {digits : List Char} (nonempty : digits ≠ [])
    (decimal : forall c, c ∈ digits -> c.isDigit = true) :
    number? digits = some (Numeral.denoted digits) :=
  if_pos ⟨nonempty, List.all_eq_true.mpr decimal⟩

theorem numberBefore?_append {digits : List Char} {mark : Char} (nonempty : digits ≠ [])
    (decimal : forall c, c ∈ digits -> c.isDigit = true) (different : mark.isDigit = false)
    (rest : List Char) :
    numberBefore? mark (digits ++ mark :: rest) = some (Numeral.denoted digits, rest) := by
  have stops : forall c, (mark :: rest).head? = some c -> c.isDigit = false := by
    intro c same
    cases same
    exact different
  rcases Numeral.span_append decimal stops with ⟨taken, left⟩
  unfold numberBefore?
  rw [left, taken]
  simp only [if_true, number?_of_digits nonempty decimal, Option.map_some]

theorem numberBefore?_year {mark : Char} (different : mark.isDigit = false) (year : Nat)
    (rest : List Char) :
    numberBefore? mark (Nat.toDigits 10 year ++ mark :: rest) = some (year, rest) := by
  rw [numberBefore?_append Nat.toDigits_ne_nil (fun c => Numeral.isDigit_of_mem) different,
    Numeral.denoted_toDigits]

theorem numberBefore?_padded {mark : Char} (different : mark.isDigit = false) (width n : Nat)
    (rest : List Char) :
    numberBefore? mark ((padded width n).toList ++ mark :: rest) = some (n, rest) := by
  rw [numberBefore?_append (padded_ne_nil width n) (fun c => isDigit_of_mem_padded) different,
    denoted_padded]

/-- The fields of a moment are read back from its text. -/
theorem read?_text {m : Moment} (proper : m.IsProper) : read? m.text = some m := by
  have nano : (padded 9 m.nano).toList.length = 9 := length_padded (by decide) proper.nano
  have fraction : number? (padded 9 m.nano).toList = some m.nano := by
    rw [number?_of_digits (padded_ne_nil 9 m.nano) (fun c => isDigit_of_mem_padded), denoted_padded]
  unfold read?
  rw [toList_text, afterYear]
  simp (disch := decide) only [numberBefore?_year, numberBefore?_padded, Option.bind_eq_bind,
    Option.bind_some, nano, if_true, fraction]

/-- A moment has no text that says that it is unknown. -/
theorem text_ne_unknown {m : Moment} (proper : m.IsProper) : m.text ≠ unknown := by
  intro same
  have read := read?_text proper
  rw [same] at read
  cases read

end Moment

/-! ## Instants -/

open Moment

/-- The text of an instant in the years that can be written. -/
theorem realText_of_inYears {ns : Int} (inside : InYears ns) :
    Exists fun m : Moment => realText ns = m.text ∧ m.IsProper ∧ m.year ≤ 9999 ∧
      m.nanoseconds = ns := by
  rcases ofNanoseconds?_of_inYears inside with ⟨m, found, proper⟩
  refine ⟨m, ?_, proper⟩
  rw [realText, found]

theorem realText_of_outside {ns : Int} (outside : ¬ InYears ns) : realText ns = unknown := by
  have missing : ofNanoseconds? ns = none := by
    apply Option.not_isSome_iff_eq_none.mp
    exact outside ∘ isSome_ofNanoseconds?_iff.mp
  rw [realText, missing]

theorem realText_eq_unknown_iff {ns : Int} : realText ns = unknown ↔ ¬ InYears ns := by
  constructor
  · intro same inside
    rcases realText_of_inYears inside with ⟨m, shown, proper, _⟩
    exact text_ne_unknown proper (shown.symm.trans same)
  · exact realText_of_outside

example : realText 253402300800000000000 = unknown := by decide +kernel

theorem realText_read? {ns : Int} (inside : InYears ns) :
    Exists fun m : Moment => read? (realText ns) = some m ∧ m.IsProper ∧ m.year ≤ 9999 ∧
      m.nanoseconds = ns := by
  rcases realText_of_inYears inside with ⟨m, shown, proper, rest⟩
  refine ⟨m, ?_, proper, rest⟩
  rw [shown, read?_text proper]

/-- Instants that can be written have one text only if they are one. -/
theorem realText_inj {first second : Int} (inside : InYears first) (within : InYears second) :
    realText first = realText second ↔ first = second := by
  constructor
  · intro same
    rcases realText_read? inside with ⟨m, read, _, _, instant⟩
    rcases realText_read? within with ⟨n, readAgain, _, _, other⟩
    rw [same, readAgain] at read
    rw [← instant, ← other, Option.some.inj read]
  · exact congrArg realText

/-! ## Formatters of wall-clock time -/

/-- What a formatter shows that is issued for an offset, if it is issued. -/
def shiftedText (offset : Int) (issue : Nat) (ns : Int) : Except Fault String :=
  (Formatter.shift offset issue).bind fun clock => clock.text (.int ns)

theorem shiftedText_eq_iff {offset : Int} {issue : Nat} {ns : Int} :
    shiftedText offset issue ns = .ok (realText (ns + offset)) ↔ Numeral.Fits offset := by
  constructor
  · intro shown
    by_contra long
    rw [shiftedText, Formatter.shift_of_long long] at shown
    cases shown
  · intro fits
    rcases Formatter.shift_of_fits fits issue with ⟨clock, issued⟩
    rw [shiftedText, issued]
    exact Formatter.text_of_shift issued ns

/-- The text of an instant is unknown exactly if it lies outside the years 1 to 9999.  Any other text
is read back as the fields of a date and a time of day, and these denote the instant, so the text
does.  A formatter at an offset shows an integer as the instant that the offset makes of it, and it
exists exactly if the offset can be written. -/
theorem realText_denotes (offset : Int) (issue : Nat) (first second : Int) :
    (realText first = unknown ↔ ¬ InYears first) ∧
      (InYears first -> Exists fun m : Moment =>
        read? (realText first) = some m ∧ m.IsProper ∧ m.year ≤ 9999 ∧ m.nanoseconds = first) ∧
      (InYears first -> InYears second -> (realText first = realText second ↔ first = second)) ∧
      (shiftedText offset issue first = .ok (realText (first + offset)) ↔ Numeral.Fits offset) ∧
      (Numeral.Fits offset -> InYears (first + offset) -> InYears (second + offset) ->
        (shiftedText offset issue first = shiftedText offset issue second ↔ first = second)) := by
  refine ⟨realText_eq_unknown_iff, realText_read?, realText_inj, shiftedText_eq_iff, ?_⟩
  intro fits inside within
  rw [shiftedText_eq_iff.mpr fits, shiftedText_eq_iff.mpr fits, Except.ok.injEq,
    realText_inj inside within]
  omega

theorem inYears_of_bounds {ns : Int} (begun : -62135596800000000000 ≤ ns)
    (ended : ns ≤ 253402300799999999999) : InYears ns := by
  rw [InYears, nanoseconds_earliest, nanoseconds_latest]
  exact ⟨begun, ended⟩

/-- The last nanosecond before 1970 is read back from its text, shown directly or at an offset. -/
theorem lastNanosecond_denoted :
    InYears (-1) ∧ InYears 0 ∧ Numeral.Fits 1000 ∧
      (Exists fun m : Moment =>
        read? "1969-12-31T23:59:59.999999999" = some m ∧ m.IsProper ∧ m.nanoseconds = -1) ∧
      realText (-1) ≠ realText 0 ∧
      shiftedText 1000 0 (-1001) = .ok "1969-12-31T23:59:59.999999999" ∧
      shiftedText 1000 0 (-1001) ≠ shiftedText 1000 0 (-1000) := by
  have inside : InYears (-1) := inYears_of_bounds (by decide) (by decide)
  have within : InYears 0 := inYears_of_bounds (by decide) (by decide)
  have short : 10 ^ 4 ≤ 10 ^ Numeral.digitLimit := Nat.pow_le_pow_right (by decide) (by decide)
  have small : (1000 : Int).natAbs < 10 ^ 4 := by decide
  have fits : Numeral.Fits 1000 := Nat.lt_of_lt_of_le small short
  have text : realText (-1) = "1969-12-31T23:59:59.999999999" := by decide +kernel
  have moved : InYears (-1001 + 1000) := inYears_of_bounds (by decide) (by decide)
  have other : InYears (-1000 + 1000) := inYears_of_bounds (by decide) (by decide)
  rcases realText_denotes 0 0 (-1) 0 with ⟨_, reads, apart, _⟩
  rcases realText_denotes 1000 0 (-1001) (-1000) with ⟨_, _, _, shows, shownApart⟩
  rcases reads inside with ⟨m, read, proper, _, instant⟩
  rw [text] at read
  refine ⟨inside, within, fits, ⟨m, read, proper, instant⟩, ?_, ?_, ?_⟩
  · exact mt (apart inside within).mp (by omega)
  · rw [← text]
    exact shows.mpr fits
  · exact mt (shownApart fits moved other).mp (by omega)

/-- With an offset of one digit too many there is no formatter, although the instant that the offset
makes of an integer can be the beginning of 1970. -/
theorem longOffset_shows_nothing :
    shiftedText (10 ^ Numeral.digitLimit) 0 (-10 ^ Numeral.digitLimit) = .error .tooManyDigits ∧
      realText (-10 ^ Numeral.digitLimit + 10 ^ Numeral.digitLimit) =
        "1970-01-01T00:00:00.000000000" := by
  constructor
  · have long : ¬ Numeral.Fits (10 ^ Numeral.digitLimit) := by
      have ten : (10 : Int).natAbs = 10 := rfl
      rw [Numeral.Fits, Int.natAbs_pow, ten]
      exact Nat.lt_irrefl _
    rw [shiftedText, Formatter.shift_of_long long]
    rfl
  · rw [Int.add_left_neg]
    decide +kernel

end TraceView.Time
