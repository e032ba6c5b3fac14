import Mathlib.Algebra.Group.Int.Defs
import TraceView.Proofs.Number.RoundTrip
import TraceView.Proofs.Outcome
import TraceView.Time.Elapsed

namespace TraceView

/-!
# Integers that can be written

An integer can be written if it has no more digits than texts may have.  Smaller integers can be
written then as well, among them the units of an elapsed time, and what has been read from a text
can always be written again.
-/

namespace Numeral

/-- An integer with no more digits than texts may have. -/
def Fits (n : Int) : Prop :=
  n.natAbs < 10 ^ digitLimit

instance (n : Int) : Decidable (Fits n) :=
  inferInstanceAs (Decidable (n.natAbs < 10 ^ digitLimit))

theorem digitLimit_pos : 0 < digitLimit := by
  decide

theorem fits_iff_length {n : Int} : Fits n ↔ (Nat.toDigits 10 n.natAbs).length ≤ digitLimit :=
  (Nat.length_toDigits_le_iff (by decide) digitLimit_pos).symm

theorem write_of_fits {n : Int} (fits : Fits n) : write n = .ok (full n) :=
  if_pos (fits_iff_length.mp fits)

theorem succeeds_write_iff {n : Int} : Succeeds (write n) ↔ Fits n := by
  rw [fits_iff_length, write]
  by_cases short : (Nat.toDigits 10 n.natAbs).length ≤ digitLimit
  · rw [if_pos short]
    exact ⟨fun _ => short, fun _ => ⟨full n, rfl⟩⟩
  · rw [if_neg short]
    constructor
    · rintro ⟨text, impossible⟩
      cases impossible
    · exact fun fits => absurd fits short

theorem write_of_long {n : Int} (long : ¬ Fits n) : write n = .error .tooManyDigits :=
  if_neg (long ∘ fits_iff_length.mpr)

/-- The least integer with a digit too many. -/
theorem not_fits_pow_digitLimit : ¬ Fits (10 ^ digitLimit) := by
  have ten : (10 : Int).natAbs = 10 := rfl
  rw [Fits, Int.natAbs_pow, ten]
  exact Nat.lt_irrefl _

theorem Fits.of_natAbs_le {n m : Int} (fits : Fits n) (smaller : m.natAbs ≤ n.natAbs) : Fits m :=
  Nat.lt_of_le_of_lt smaller fits

/-! ## Reading -/

theorem digit_lt_of_map {digit : Nat} {run : Option (List Nat)} {digits : List Nat}
    (first : digit < 10) (read : run.map (digit :: ·) = some digits)
    (later : forall rest, run = some rest -> forall other, other ∈ rest -> other < 10) :
    forall other, other ∈ digits -> other < 10 := by
  rcases Option.map_eq_some_iff.mp read with ⟨rest, found, same⟩
  rw [← same]
  exact List.forall_mem_cons.mpr ⟨first, later rest found⟩

theorem digit_lt_of_digitRun {text : List Char} {digits : List Nat}
    (run : digitRun text = some digits) : forall digit, digit ∈ digits -> digit < 10 := by
  fun_induction digitRun text generalizing digits with
  | case1 => cases run
  | case2 => cases run
  | case3 c digit first =>
      cases run
      intro other listed
      rw [List.mem_singleton.mp listed]
      exact Text.digit?_lt first
  | case4 c digit more first inductionHypothesis =>
      exact digit_lt_of_map (Text.digit?_lt first) run fun _ => inductionHypothesis
  | case5 c digit next more different first inductionHypothesis =>
      exact digit_lt_of_map (Text.digit?_lt first) run fun _ => inductionHypothesis

/-- Digits denote a number with no more digits than they are. -/
theorem foldl_digits_lt {digits : List Nat} (decimal : forall digit, digit ∈ digits -> digit < 10)
    (value : Nat) :
    digits.foldl (fun value digit => 10 * value + digit) value <
      (value + 1) * 10 ^ digits.length := by
  induction digits generalizing value with
  | nil => simp only [List.foldl_nil, List.length_nil, Nat.pow_zero, Nat.mul_one, Nat.lt_succ_self]
  | cons digit rest inductionHypothesis =>
      have least := decimal digit List.mem_cons_self
      calc (digit :: rest).foldl (fun value digit => 10 * value + digit) value
          < (10 * value + digit + 1) * 10 ^ rest.length :=
            inductionHypothesis (fun other listed => decimal other (List.mem_cons_of_mem _ listed)) _
        _ ≤ (10 * (value + 1)) * 10 ^ rest.length := Nat.mul_le_mul_right _ (by omega)
        _ = (value + 1) * 10 ^ (digit :: rest).length := by
            rw [List.length_cons, Nat.pow_succ, Nat.mul_comm 10, Nat.mul_assoc, Nat.mul_comm 10]

/-- What is read can be written. -/
theorem fits_of_read {text : String} {n : Int} (found : read text = some n) : Fits n := by
  unfold read at found
  generalize splitSign (Text.strip text.toList) = parts at found
  rcases parts with ⟨negative, body⟩
  rcases Option.bind_eq_some_iff.mp found with ⟨digits, run, short⟩
  by_cases within : digits.length ≤ digitLimit
  · rw [if_pos within] at short
    have magnitude : n.natAbs = ofDigits digits := by
      rw [← Option.some.inj short]
      cases negative with
      | true => exact Int.natAbs_neg _
      | false => rfl
    have bound := foldl_digits_lt (digit_lt_of_digitRun run) 0
    rw [Nat.zero_add, Nat.one_mul] at bound
    rw [Fits, magnitude]
    exact Nat.lt_of_lt_of_le bound (Nat.pow_le_pow_right (by decide) within)
  · rw [if_neg within] at short
    cases short

end Numeral

/-! ## Elapsed times -/

namespace Time

/-- A time that can be written as an integer can be written in units. -/
theorem elapsedText_of_fits {ns : Int} (fits : Numeral.Fits ns) :
    Succeeds (elapsedText ns) := by
  unfold elapsedText
  by_cases negative : ns < 0
  · rw [if_pos negative]
    exact ⟨unknown, rfl⟩
  · rw [if_neg negative]
    -- no unit has a larger amount than the whole time has nanoseconds
    have unit : forall amount mark, amount ≤ ns.toNat -> Succeeds (Elapsed.unitText (amount, mark)) := by
      intro amount mark smaller
      apply succeeds_map_iff.mpr
      apply Numeral.succeeds_write_iff.mpr
      apply fits.of_natAbs_le
      rw [Int.natAbs_natCast]
      omega
    have larger : forall part, part ∈ (Elapsed.ofNanoseconds ns.toNat).larger ->
        part.1 ≤ ns.toNat := by
      simp only [Elapsed.larger, Elapsed.ofNanoseconds, List.forall_mem_cons, List.not_mem_nil,
        false_implies, implies_true, and_true]
      omega
    have units : Succeeds
        (((Elapsed.ofNanoseconds ns.toNat).larger.dropWhile (·.1 == 0)).mapM Elapsed.unitText) := by
      apply succeeds_mapM_iff.mpr
      intro part listed
      exact unit part.1 part.2 (larger part ((List.dropWhile_sublist _).subset listed))
    rcases units with ⟨texts, written⟩
    rcases unit (Elapsed.ofNanoseconds ns.toNat).nanos "ns" (Nat.mod_le _ _) with ⟨last, ending⟩
    unfold Elapsed.text
    rw [written]
    simp only [bind, Except.bind, ending]
    exact succeeds_ok _

end Time

end TraceView
