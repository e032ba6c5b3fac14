namespace TraceView

/-!
# Conversions that cannot be carried out

A decoded value may have any kind, so a conversion may meet a value it has no answer for.  The
reasons are kept apart only as far as a caller treats them differently.
-/

/-- The reason why a conversion has no answer. -/
inductive Fault where
  /-- An integer with more decimal digits than a text may have. -/
  | tooManyDigits
  | notNumeric
  | wrongKind
  | tooLarge
  /-- A decimal with an exponent that decimals do not have. -/
  | exponentOutOfRange
  deriving DecidableEq, Repr

def Fault.message : Fault -> String
  | .tooManyDigits => "integer has more than 4300 digits"
  | .notNumeric => "text is not a number"
  | .wrongKind => "value has the wrong kind"
  | .tooLarge => "number is too large"
  | .exponentOutOfRange => "exponent is out of range"

end TraceView
