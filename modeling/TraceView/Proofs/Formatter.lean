import TraceView.Formatter
import TraceView.Proofs.Number.Writable

namespace TraceView.Formatter

/-!
# Formatters at an offset

A formatter at an offset has the offset in its name, so it can be issued exactly if the offset can be
written.  Then it shows an integer as the instant that many nanoseconds later.
-/

/-- The formatter that is issued for an offset has it. -/
theorem shift_eq_ok {offset : Int} {issue : Nat} {clock : Formatter}
    (issued : shift offset issue = .ok clock) :
    Exists fun label : String => clock = .shifted label offset issue := by
  unfold shift at issued
  cases written : Numeral.writeSigned offset with
  | error cause =>
      rw [written] at issued
      cases issued
  | ok digits =>
      rw [written] at issued
      exact ⟨_, (Except.ok.inj issued).symm⟩

/-- A formatter cannot be named by an offset that is too long. -/
theorem shift_of_long {offset : Int} (long : ¬ Numeral.Fits offset) (issue : Nat) :
    shift offset issue = .error .tooManyDigits := by
  unfold shift Numeral.writeSigned
  by_cases negative : offset < 0
  · rw [if_pos negative, Numeral.write_of_long long]
    rfl
  · rw [if_neg negative, Numeral.write_of_long long]
    rfl

theorem shift_of_fits {offset : Int} (fits : Numeral.Fits offset) (issue : Nat) :
    Exists fun clock : Formatter => shift offset issue = .ok clock := by
  rcases Numeral.succeeds_write_iff.mpr fits with ⟨digits, written⟩
  unfold shift Numeral.writeSigned
  by_cases negative : offset < 0
  · rw [if_pos negative, written]
    exact ⟨_, rfl⟩
  · rw [if_neg negative, written]
    exact ⟨_, rfl⟩

/-- What a formatter shows that has been issued for an offset. -/
theorem text_of_shift {offset : Int} {issue : Nat} {clock : Formatter}
    (issued : shift offset issue = .ok clock) (ns : Int) :
    clock.text (.int ns) = .ok (Time.realText (ns + offset)) := by
  rcases shift_eq_ok issued with ⟨label, same⟩
  rw [same, text]

end TraceView.Formatter
