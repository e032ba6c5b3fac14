import Mathlib.Algebra.GroupWithZero.Nat
import Mathlib.Data.List.Basic
import TraceView.Proofs.Number.Digits
import TraceView.Proofs.Number.Writable

namespace TraceView.Time

/-!
# The form of elapsed times

The texts of elapsed times are given here by their form.  A text of the form is cut into its amounts
in one way, because an amount ends where its mark begins and a mark ends where the next amount begins.
So it denotes one number of nanoseconds, and it is the text of that number.
-/

/-! ## Texts of the form -/

/-- A text denotes a number of nanoseconds: it has the amounts of the units from the largest that is
not zero down to nanoseconds. -/
inductive SpellsElapsed : String -> Nat -> Prop where
  | nanos {n : String} {nanos : Nat} (fraction : Numeral.Spells n nanos) (small : nanos < 1000000) :
      SpellsElapsed (n ++ "ns") nanos
  | millis {l n : String} {millis nanos : Nat} (leading : Numeral.Spells l millis)
      (fraction : Numeral.Spells n nanos) (positive : 0 < millis) (short : millis < 1000)
      (small : nanos < 1000000) :
      SpellsElapsed (l ++ "ms" ++ n ++ "ns") (millis * 1000000 + nanos)
  | seconds {s l n : String} {seconds millis nanos : Nat} (leading : Numeral.Spells s seconds)
      (next : Numeral.Spells l millis) (fraction : Numeral.Spells n nanos) (positive : 0 < seconds)
      (below : seconds < 60) (short : millis < 1000) (small : nanos < 1000000) :
      SpellsElapsed (s ++ "s" ++ l ++ "ms" ++ n ++ "ns")
        (seconds * 1000000000 + millis * 1000000 + nanos)
  | minutes {m s l n : String} {minutes seconds millis nanos : Nat}
      (leading : Numeral.Spells m minutes) (second : Numeral.Spells s seconds)
      (next : Numeral.Spells l millis) (fraction : Numeral.Spells n nanos) (positive : 0 < minutes)
      (below : seconds < 60) (short : millis < 1000) (small : nanos < 1000000) :
      SpellsElapsed (m ++ "m" ++ s ++ "s" ++ l ++ "ms" ++ n ++ "ns")
        (minutes * 60000000000 + seconds * 1000000000 + millis * 1000000 + nanos)

namespace Elapsed

/-! ## Amounts with marks -/

/-- The amounts that are shown, with their marks. -/
def shown (t : Elapsed) : List (Nat × String) :=
  t.larger.dropWhile (·.1 == 0) ++ [(t.nanos, "ns")]

/-- The text of an amount of any size with its mark. -/
def marked (part : Nat × String) : String :=
  toString part.1 ++ part.2

/-- The text of amounts with their marks. -/
def joined (parts : List (Nat × String)) : String :=
  String.join (parts.map marked)

theorem unitText_eq_ok_iff {part : Nat × String} {text : String} :
    unitText part = .ok text ↔ Numeral.Fits part.1 ∧ text = marked part := by
  have full : Numeral.full part.1 = toString part.1 := by
    rw [Numeral.full, if_neg (Int.not_lt.mpr (Int.natCast_nonneg _)), Int.natAbs_natCast]
  rw [Numeral.fits_iff_length]
  unfold unitText Numeral.write marked
  by_cases short : (Nat.toDigits 10 (part.1 : Int).natAbs).length ≤ Numeral.digitLimit
  · rw [if_pos short, full]
    constructor
    · exact fun same => ⟨short, (Except.ok.inj same).symm⟩
    · exact fun same => congrArg Except.ok same.2.symm
  · rw [if_neg short]
    constructor
    · intro impossible
      cases impossible
    · exact fun fits => absurd fits.1 short

theorem mapM_unitText_eq_ok_iff {parts : List (Nat × String)} {texts : List String} :
    parts.mapM unitText = .ok texts ↔
      (forall part, part ∈ parts -> Numeral.Fits part.1) ∧ texts = parts.map marked := by
  induction parts generalizing texts with
  | nil =>
      constructor
      · intro same
        cases same
        exact ⟨fun part impossible => absurd impossible List.not_mem_nil, rfl⟩
      · rintro ⟨_, same⟩
        rw [same]
        rfl
  | cons part rest inductionHypothesis =>
      rw [List.mapM_cons, bind_eq_ok_iff, List.forall_mem_cons, List.map_cons]
      constructor
      · rintro ⟨text, first, others⟩
        rcases bind_eq_ok_iff.mp others with ⟨more, later, same⟩
        rcases unitText_eq_ok_iff.mp first with ⟨fits, written⟩
        rcases inductionHypothesis.mp later with ⟨othersFit, othersWritten⟩
        cases same
        exact ⟨⟨fits, othersFit⟩, by rw [written, othersWritten]⟩
      · rintro ⟨⟨fits, othersFit⟩, same⟩
        refine ⟨_, unitText_eq_ok_iff.mpr ⟨fits, rfl⟩, ?_⟩
        rw [inductionHypothesis.mpr ⟨othersFit, rfl⟩, same]
        rfl

theorem joined_nil : joined [] = "" :=
  String.join_nil

theorem joined_cons (part : Nat × String) (rest : List (Nat × String)) :
    joined (part :: rest) = toString part.1 ++ part.2 ++ joined rest := by
  rw [joined, List.map_cons, String.join_cons, marked, joined]

theorem joined_concat (parts : List (Nat × String)) (part : Nat × String) :
    joined (parts ++ [part]) = String.join (parts.map marked) ++ marked part := by
  rw [joined, List.map_append, String.join_append, List.map_singleton, String.join_cons,
    String.join_nil, String.append_empty]

/-- An elapsed time has a text exactly if the amounts that are shown can be written, and the text
consists of them. -/
theorem text_eq_ok_iff {t : Elapsed} {text : String} :
    t.text = .ok text ↔
      (forall part, part ∈ t.shown -> Numeral.Fits part.1) ∧ text = joined t.shown := by
  unfold Elapsed.text shown
  rw [List.forall_mem_append, List.forall_mem_singleton, bind_eq_ok_iff, joined_concat]
  constructor
  · rintro ⟨units, larger, rest⟩
    rcases bind_eq_ok_iff.mp rest with ⟨nanos, last, same⟩
    rcases mapM_unitText_eq_ok_iff.mp larger with ⟨fit, written⟩
    rcases unitText_eq_ok_iff.mp last with ⟨lastFits, lastWritten⟩
    rw [← Except.ok.inj same, written, lastWritten]
    exact ⟨⟨fit, lastFits⟩, rfl⟩
  · rintro ⟨⟨fit, lastFits⟩, same⟩
    refine ⟨_, mapM_unitText_eq_ok_iff.mpr ⟨fit, rfl⟩, ?_⟩
    rw [unitText_eq_ok_iff.mpr ⟨lastFits, rfl⟩, same]
    rfl

/-! ## Reading amounts back -/

/-- A character that is no digit. -/
def isLetter (c : Char) : Bool :=
  !c.isDigit

/-- A mark has letters and nothing else. -/
structure IsMark (mark : String) : Prop where
  nonempty : mark.toList ≠ []
  letters : forall c, c ∈ mark.toList -> isLetter c = true

theorem IsMark.stops {mark : String} (isMark : IsMark mark) (rest : List Char) (c : Char)
    (first : (mark.toList ++ rest).head? = some c) : c.isDigit = false := by
  rw [List.head?_append_of_ne_nil _ isMark.nonempty] at first
  have letter := isMark.letters c (List.mem_of_mem_head? first)
  rw [isLetter, Bool.not_eq_true'] at letter
  exact letter

theorem toList_joined_cons (part : Nat × String) (rest : List (Nat × String)) :
    (joined (part :: rest)).toList =
      Nat.toDigits 10 part.1 ++ (part.2.toList ++ (joined rest).toList) := by
  rw [joined_cons, String.toList_append, String.toList_append, Numeral.toList_toString,
    List.append_assoc]

/-- A text of amounts begins with a digit. -/
theorem isDigit_of_head?_joined {parts : List (Nat × String)} {c : Char}
    (first : (joined parts).toList.head? = some c) : c.isDigit = true := by
  cases parts with
  | nil => cases first
  | cons part rest =>
      rw [toList_joined_cons, List.head?_append_of_ne_nil _ Nat.toDigits_ne_nil] at first
      exact Numeral.isDigit_of_mem (List.mem_of_mem_head? first)

theorem isLetter_of_head?_joined {parts : List (Nat × String)} {c : Char}
    (first : (joined parts).toList.head? = some c) : isLetter c = false := by
  rw [isLetter, isDigit_of_head?_joined first, Bool.not_true]

/-- Amounts and marks are read back from their text. -/
theorem joined_inj {parts others : List (Nat × String)}
    (marks : forall part, part ∈ parts -> IsMark part.2)
    (otherMarks : forall part, part ∈ others -> IsMark part.2)
    (same : (joined parts).toList = (joined others).toList) : parts = others := by
  induction parts generalizing others with
  | nil =>
      cases others with
      | nil => rfl
      | cons other more =>
          rw [toList_joined_cons] at same
          exact absurd same.symm (List.append_ne_nil_of_left_ne_nil Nat.toDigits_ne_nil _)
  | cons part rest inductionHypothesis =>
      cases others with
      | nil =>
          rw [toList_joined_cons] at same
          exact absurd same (List.append_ne_nil_of_left_ne_nil Nat.toDigits_ne_nil _)
      | cons other more =>
          rcases List.forall_mem_cons.mp marks with ⟨mark, marksLater⟩
          rcases List.forall_mem_cons.mp otherMarks with ⟨otherMark, otherLater⟩
          rw [toList_joined_cons, toList_joined_cons] at same
          -- the amount ends at the first letter, and the mark ends at the next digit
          rcases Numeral.span_inj (fun c => Numeral.isDigit_of_mem) (fun c => Numeral.isDigit_of_mem)
            (mark.stops _) (otherMark.stops _) same with ⟨digits, left⟩
          rcases Numeral.span_inj mark.letters otherMark.letters (fun c => isLetter_of_head?_joined)
            (fun c => isLetter_of_head?_joined) left with ⟨letters, remaining⟩
          have amounts : part.1 = other.1 := Numeral.toDigits_injective digits
          have marks : part.2 = other.2 := String.toList_injective letters
          rw [Prod.ext amounts marks, inductionHypothesis marksLater otherLater remaining]

/-! ## The units of an elapsed time -/

/-- The number of nanoseconds in a unit. -/
def unitSize (mark : String) : Nat :=
  if mark = "m" then 60000000000
  else if mark = "s" then 1000000000
  else if mark = "ms" then 1000000
  else 1

/-- The number of nanoseconds in amounts with their marks. -/
def total (parts : List (Nat × String)) : Nat :=
  (parts.map fun part => part.1 * unitSize part.2).sum

theorem total_cons (part : Nat × String) (rest : List (Nat × String)) :
    total (part :: rest) = part.1 * unitSize part.2 + total rest := by
  rw [total, List.map_cons, List.sum_cons, total]

theorem total_append (parts others : List (Nat × String)) :
    total (parts ++ others) = total parts + total others := by
  rw [total, List.map_append, List.sum_append, total, total]

theorem total_dropWhile (parts : List (Nat × String)) :
    total (parts.dropWhile (·.1 == 0)) = total parts := by
  induction parts with
  | nil => rfl
  | cons part rest inductionHypothesis =>
      by_cases zero : part.1 = 0
      · rw [List.dropWhile_cons, if_pos (beq_iff_eq.mpr zero), inductionHypothesis, total_cons, zero,
          Nat.zero_mul, Nat.zero_add]
      · rw [List.dropWhile_cons, if_neg (zero ∘ beq_iff_eq.mp)]

/-- The amounts that are left out are zero. -/
theorem total_shown (t : Elapsed) : total t.shown = t.toNanoseconds := by
  have minute : unitSize "m" = 60000000000 := by decide
  have second : unitSize "s" = 1000000000 := by decide
  have milli : unitSize "ms" = 1000000 := by decide
  have nano : unitSize "ns" = 1 := by decide
  have none : total [] = 0 := rfl
  rw [shown, total_append, total_dropWhile, larger, total_cons, total_cons, total_cons, total_cons,
    none, minute, second, milli, nano, toNanoseconds]
  omega

theorem mem_units_of_mem_shown {t : Elapsed} {part : Nat × String} (listed : part ∈ t.shown) :
    part ∈ t.larger ++ [(t.nanos, "ns")] :=
  ((List.dropWhile_sublist _).append_right _).subset listed

theorem isMark_of_mem_shown {t : Elapsed} : forall part, part ∈ t.shown -> IsMark part.2 := by
  have marks : forall mark, mark ∈ ["m", "s", "ms", "ns"] -> IsMark mark := by
    simp only [List.forall_mem_cons, List.not_mem_nil, false_implies, implies_true, and_true]
    exact ⟨⟨List.cons_ne_nil _ _, List.all_eq_true.mp rfl⟩,
      ⟨List.cons_ne_nil _ _, List.all_eq_true.mp rfl⟩,
      ⟨List.cons_ne_nil _ _, List.all_eq_true.mp rfl⟩,
      ⟨List.cons_ne_nil _ _, List.all_eq_true.mp rfl⟩⟩
  intro part listed
  have mark : part.2 ∈ (t.larger ++ [(t.nanos, "ns")]).map Prod.snd :=
    List.mem_map_of_mem (mem_units_of_mem_shown listed)
  exact marks part.2 mark

/-- A number of nanoseconds is read back from the amounts that are shown for it. -/
theorem toNanoseconds_of_joined {t u : Elapsed} (same : joined t.shown = joined u.shown) :
    t.toNanoseconds = u.toNanoseconds := by
  have parts : t.shown = u.shown :=
    joined_inj isMark_of_mem_shown isMark_of_mem_shown (congrArg String.toList same)
  rw [← total_shown, parts, total_shown]

/-! ## Elapsed times in their units -/

/-- The amounts of the smaller units are less than one of the next unit. -/
structure Carried (t : Elapsed) : Prop where
  seconds : t.seconds < 60
  millis : t.millis < 1000
  nanos : t.nanos < 1000000

theorem carried_ofNanoseconds (ns : Nat) : (ofNanoseconds ns).Carried := by
  constructor
  · change ns % 60000000000 / 1000000000 < 60
    omega
  · change ns % 1000000000 / 1000000 < 1000
    omega
  · exact Nat.mod_lt _ (by decide)

/-- A number of nanoseconds has no other units of which the smaller ones are less than the next. -/
theorem ofNanoseconds_toNanoseconds {t : Elapsed} (carried : t.Carried) :
    ofNanoseconds t.toNanoseconds = t := by
  rcases t with ⟨minutes, seconds, millis, nanos⟩
  rcases carried with ⟨below, short, small⟩
  simp only [ofNanoseconds, toNanoseconds, mk.injEq] at below short small ⊢
  omega

section

variable {minutes seconds millis nanos : Nat}

theorem dropWhile_of_pos {amount : Nat} (positive : 0 < amount) (mark : String)
    (rest : List (Nat × String)) :
    ((amount, mark) :: rest).dropWhile (·.1 == 0) = (amount, mark) :: rest := by
  have leading : (amount == 0) = false := beq_eq_false_iff_ne.mpr (Nat.ne_of_gt positive)
  rw [List.dropWhile_cons, leading, if_neg Bool.false_ne_true]

theorem dropWhile_zero (mark : String) (rest : List (Nat × String)) :
    ((0, mark) :: rest).dropWhile (·.1 == 0) = rest.dropWhile (·.1 == 0) :=
  rfl

theorem joined_nanos : joined (shown ⟨0, 0, 0, nanos⟩) = toString nanos ++ "ns" := by
  rw [shown, larger, dropWhile_zero, dropWhile_zero, dropWhile_zero, List.dropWhile_nil,
    List.nil_append, joined_cons, joined_nil, String.append_empty]

theorem joined_millis (positive : 0 < millis) :
    joined (shown ⟨0, 0, millis, nanos⟩) = toString millis ++ "ms" ++ toString nanos ++ "ns" := by
  rw [shown, larger, dropWhile_zero, dropWhile_zero, dropWhile_of_pos positive]
  simp only [List.cons_append, List.nil_append, joined_cons, joined_nil, String.append_empty,
    String.append_assoc]

theorem joined_seconds (positive : 0 < seconds) :
    joined (shown ⟨0, seconds, millis, nanos⟩) =
      toString seconds ++ "s" ++ toString millis ++ "ms" ++ toString nanos ++ "ns" := by
  rw [shown, larger, dropWhile_zero, dropWhile_of_pos positive]
  simp only [List.cons_append, List.nil_append, joined_cons, joined_nil, String.append_empty,
    String.append_assoc]

theorem joined_minutes (positive : 0 < minutes) :
    joined (shown ⟨minutes, seconds, millis, nanos⟩) =
      toString minutes ++ "m" ++ toString seconds ++ "s" ++ toString millis ++ "ms" ++
        toString nanos ++ "ns" := by
  rw [shown, larger, dropWhile_of_pos positive]
  simp only [List.cons_append, List.nil_append, joined_cons, joined_nil, String.append_empty,
    String.append_assoc]

end

/-- The amounts of an elapsed time make a text of the form. -/
theorem spellsElapsed_joined {t : Elapsed} (carried : t.Carried) :
    SpellsElapsed (joined t.shown) t.toNanoseconds := by
  have spelled : forall n : Nat, Numeral.Spells (toString n) n := fun n => Numeral.spells_iff.mpr rfl
  rcases t with ⟨minutes, seconds, millis, nanos⟩
  rcases carried with ⟨below, short, small⟩
  rcases Nat.eq_zero_or_pos minutes with rfl | positive
  · rcases Nat.eq_zero_or_pos seconds with rfl | positive
    · rcases Nat.eq_zero_or_pos millis with rfl | positive
      · rw [joined_nanos]
        simpa only [toNanoseconds, Nat.zero_mul, Nat.zero_add] using .nanos (spelled nanos) small
      · rw [joined_millis positive]
        simpa only [toNanoseconds, Nat.zero_mul, Nat.zero_add] using
          .millis (spelled millis) (spelled nanos) positive short small
    · rw [joined_seconds positive]
      simpa only [toNanoseconds, Nat.zero_mul, Nat.zero_add] using
        .seconds (spelled seconds) (spelled millis) (spelled nanos) positive below short small
  · rw [joined_minutes positive]
    exact .minutes (spelled _) (spelled _) (spelled _) (spelled _) positive below short small

/-- A text of the form consists of the amounts of an elapsed time. -/
theorem exists_of_spellsElapsed {text : String} {n : Nat} (spells : SpellsElapsed text n) :
    Exists fun t : Elapsed => t.Carried ∧ t.toNanoseconds = n ∧ text = joined t.shown := by
  cases spells with
  | nanos fraction small =>
      rw [Numeral.spells_iff] at fraction
      refine ⟨⟨0, 0, 0, n⟩, ⟨Nat.zero_lt_succ _, Nat.zero_lt_succ _, small⟩, ?_, ?_⟩
      · simp only [toNanoseconds, Nat.zero_mul, Nat.zero_add]
      · rw [fraction, joined_nanos]
  | @millis l f millis nanos leading fraction positive short small =>
      rw [Numeral.spells_iff] at leading fraction
      refine ⟨⟨0, 0, millis, nanos⟩, ⟨Nat.zero_lt_succ _, short, small⟩, ?_, ?_⟩
      · simp only [toNanoseconds, Nat.zero_mul, Nat.zero_add]
      · rw [leading, fraction, joined_millis positive]
  | @seconds s l f seconds millis nanos leading next fraction positive below short small =>
      rw [Numeral.spells_iff] at leading next fraction
      refine ⟨⟨0, seconds, millis, nanos⟩, ⟨below, short, small⟩, ?_, ?_⟩
      · simp only [toNanoseconds, Nat.zero_mul, Nat.zero_add]
      · rw [leading, next, fraction, joined_seconds positive]
  | @minutes m s l f minutes seconds millis nanos leading second next fraction positive below short
      small =>
      rw [Numeral.spells_iff] at leading second next fraction
      refine ⟨⟨minutes, seconds, millis, nanos⟩, ⟨below, short, small⟩, rfl, ?_⟩
      rw [leading, second, next, fraction, joined_minutes positive]

/-- A text of the form denotes one number of nanoseconds, and it consists of the amounts of this
number. -/
theorem spellsElapsed_iff {text : String} {n : Nat} :
    SpellsElapsed text n ↔ text = joined (ofNanoseconds n).shown := by
  constructor
  · intro spells
    rcases exists_of_spellsElapsed spells with ⟨t, carried, same, written⟩
    rw [← same, ofNanoseconds_toNanoseconds carried, written]
  · intro written
    have spells := spellsElapsed_joined (carried_ofNanoseconds n)
    rw [toNanoseconds_ofNanoseconds, ← written] at spells
    exact spells

/-- Amounts that are shown can be written if the minutes can be written. -/
theorem fits_of_mem_shown {t : Elapsed} (carried : t.Carried) (fits : Numeral.Fits t.minutes) :
    forall part, part ∈ t.shown -> Numeral.Fits part.1 := by
  have short : 10 ^ 6 ≤ 10 ^ Numeral.digitLimit := Nat.pow_le_pow_right (by decide) (by decide)
  have units : forall part, part ∈ t.larger ++ [(t.nanos, "ns")] -> Numeral.Fits part.1 := by
    rcases carried with ⟨seconds, millis, nanos⟩
    simp only [larger, List.cons_append, List.nil_append, List.forall_mem_cons, List.not_mem_nil,
      false_implies, implies_true, and_true]
    refine ⟨fits, ?_, ?_, ?_⟩
    · exact Nat.lt_of_lt_of_le (Nat.lt_trans seconds (by decide)) short
    · exact Nat.lt_of_lt_of_le (Nat.lt_trans millis (by decide)) short
    · exact Nat.lt_of_lt_of_le nanos short
  intro part listed
  exact units part (mem_units_of_mem_shown listed)

end Elapsed

/-! ## Texts of elapsed times -/

open Elapsed

theorem elapsedText_of_negative {ns : Int} (negative : ns < 0) : elapsedText ns = .ok unknown :=
  if_pos negative

theorem spellsElapsed_of_elapsedText {ns : Int} {text : String} (natural : 0 ≤ ns)
    (shown : elapsedText ns = .ok text) : SpellsElapsed text ns.toNat := by
  rw [elapsedText, if_neg (Int.not_lt.mpr natural)] at shown
  exact spellsElapsed_iff.mpr (text_eq_ok_iff.mp shown).2

theorem elapsedText_of_spellsElapsed {text : String} {n : Nat} (spells : SpellsElapsed text n)
    (fits : Numeral.Fits (n / 60000000000 : Nat)) : elapsedText n = .ok text := by
  rw [elapsedText, if_neg (Int.not_lt.mpr (Int.natCast_nonneg n)), Int.toNat_natCast]
  have written := fits_of_mem_shown (carried_ofNanoseconds n) fits
  exact text_eq_ok_iff.mpr ⟨written, spellsElapsed_iff.mp spells⟩

example : elapsedText 1000000005 = .ok "1s0ms5ns" := rfl

/-- A text of the form begins with a digit. -/
theorem not_spellsElapsed_unknown (n : Nat) : ¬ SpellsElapsed unknown n := by
  intro spells
  have first : (joined (ofNanoseconds n).shown).toList.head? = some 'u' := by
    rw [← spellsElapsed_iff.mp spells]
    rfl
  cases isDigit_of_head?_joined first

theorem spellsElapsed_unique {text : String} {n k : Nat} (spells : SpellsElapsed text n)
    (other : SpellsElapsed text k) : n = k := by
  rw [spellsElapsed_iff] at spells other
  rw [← toNanoseconds_ofNanoseconds n, ← toNanoseconds_ofNanoseconds k]
  exact toNanoseconds_of_joined (spells.symm.trans other)

/-- Each time that is not negative has a text of the form if its minutes can be written, and each text
of the form is that of one time only.  Negative times are unknown, and no other time is. -/
theorem elapsedText_spells :
    (forall ns : Int, 0 ≤ ns -> Numeral.Fits (ns / 60000000000) ->
        Exists fun text : String => elapsedText ns = .ok text ∧ SpellsElapsed text ns.toNat) ∧
      (forall (text : String) (n : Nat), SpellsElapsed text n ->
        Numeral.Fits (n / 60000000000 : Nat) ->
          forall ns : Int, elapsedText ns = .ok text ↔ ns = n) ∧
      (forall ns : Int, ns < 0 -> elapsedText ns = .ok unknown) ∧
      forall ns : Int, 0 ≤ ns -> elapsedText ns ≠ .ok unknown := by
  refine ⟨?_, ?_, fun ns => elapsedText_of_negative, ?_⟩
  · intro ns natural fits
    rcases Int.eq_ofNat_of_zero_le natural with ⟨n, rfl⟩
    have spells : SpellsElapsed (joined (ofNanoseconds n).shown) n := spellsElapsed_iff.mpr rfl
    exact ⟨_, elapsedText_of_spellsElapsed spells fits, spells⟩
  · intro text n spells fits ns
    constructor
    · intro shown
      by_cases negative : ns < 0
      · -- the text of a negative time would have the form
        rw [elapsedText_of_negative negative, Except.ok.injEq] at shown
        rw [← shown] at spells
        exact absurd spells (not_spellsElapsed_unknown n)
      · have natural : 0 ≤ ns := Int.not_lt.mp negative
        have same := spellsElapsed_unique (spellsElapsed_of_elapsedText natural shown) spells
        omega
    · intro same
      rw [same]
      exact elapsedText_of_spellsElapsed spells fits
  · intro ns natural shown
    exact not_spellsElapsed_unknown _ (spellsElapsed_of_elapsedText natural shown)

/-- The text of fourteen minutes and some seconds is that of one time only. -/
theorem fourteenMinutes_spelled :
    Numeral.Fits (850746266486 / 60000000000) ∧
      SpellsElapsed "14m10s746ms266486ns" 850746266486 ∧
      elapsedText 850746266487 ≠ .ok "14m10s746ms266486ns" ∧
      elapsedText (-1) = .ok unknown ∧ elapsedText 20 ≠ .ok unknown := by
  have short : 10 ^ 2 ≤ 10 ^ Numeral.digitLimit := Nat.pow_le_pow_right (by decide) (by decide)
  have small : (850746266486 / 60000000000 : Int).natAbs < 10 ^ 2 := by decide
  have fits : Numeral.Fits (850746266486 / 60000000000) := Nat.lt_of_lt_of_le small short
  have written : elapsedText 850746266486 = .ok "14m10s746ms266486ns" := rfl
  rcases elapsedText_spells with ⟨spells, unique, negative, known⟩
  rcases spells 850746266486 (by decide) fits with ⟨text, shown, form⟩
  rw [written, Except.ok.injEq] at shown
  rw [← shown] at form
  refine ⟨fits, form, ?_, negative (-1) (by decide), known 20 (by decide)⟩
  exact mt (unique _ _ form fits 850746266487).mp (by decide)

end TraceView.Time
