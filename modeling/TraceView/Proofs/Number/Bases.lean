import TraceView.Proofs.Number.Digits

namespace TraceView.Numeral

/-!
# Digits in other bases

In every base up to sixteen a number has a text of digits, in lower case and without zeros in front,
from which it can be read again.  How long the text is shows below which power of the base the number
lies.
-/

/-- The digits of all bases up to sixteen, each at the place of its value. -/
def lowerDigits : List Char :=
  ['0', '1', '2', '3', '4', '5', '6', '7', '8', '9', 'a', 'b', 'c', 'd', 'e', 'f']

/-- The number that digits denote in a base, most significant first. -/
def denotedIn (base : Nat) (digits : List Char) : Nat :=
  digits.foldl (fun value c => base * value + lowerDigits.idxOf c) 0

/-- A text spells a number in a base: it has a digit, it has nothing but digits of the base, and no zero
stands in front of another digit. -/
structure SpellsIn (base : Nat) (text : String) (n : Nat) : Prop where
  nonempty : text.toList ≠ []
  inBase : forall c, c ∈ text.toList -> c ∈ lowerDigits.take base
  unpadded : text.toList.head? = some '0' -> text.toList = ['0']
  value : denotedIn base text.toList = n

/-! ## Single digits -/

theorem getElem?_lowerDigits {digit : Nat} (small : digit < 16) :
    lowerDigits[digit]? = some digit.digitChar := by
  have all : forall place : Fin 16, lowerDigits[place.val]? = some place.val.digitChar := by decide
  exact all ⟨digit, small⟩

theorem idxOf_lowerDigits {digit : Nat} (small : digit < 16) :
    lowerDigits.idxOf digit.digitChar = digit := by
  have all : forall place : Fin 16, lowerDigits.idxOf place.val.digitChar = place := by decide
  exact all ⟨digit, small⟩

theorem mem_take_lowerDigits {base digit : Nat} (known : base ≤ 16) (small : digit < base) :
    digit.digitChar ∈ lowerDigits.take base := by
  apply List.mem_of_getElem? (i := digit)
  rw [List.getElem?_take_of_lt small]
  exact getElem?_lowerDigits (Nat.lt_of_lt_of_le small known)

/-! ## Texts -/

theorem denotedIn_concat (base : Nat) (digits : List Char) (c : Char) :
    denotedIn base (digits ++ [c]) = base * denotedIn base digits + lowerDigits.idxOf c := by
  rw [denotedIn, List.foldl_append, ← denotedIn]
  rfl

variable {base : Nat}

/-- What the digits of a number have in common with a single one: the induction goes from the leading
digits to the last one. -/
theorem toDigits_induction (holds : Nat -> List Char -> Prop) (several : 1 < base)
    (single : forall digit, digit < base -> holds digit [digit.digitChar])
    (step : forall front digit, 0 < front -> digit < base -> holds front (Nat.toDigits base front) ->
      holds (base * front + digit) (Nat.toDigits base front ++ [digit.digitChar])) (n : Nat) :
    holds n (Nat.toDigits base n) := by
  induction n using Nat.strongRecOn with
  | ind n inductionHypothesis =>
      have positive : 0 < base := Nat.lt_trans Nat.one_pos several
      by_cases small : n < base
      · rw [Nat.toDigits_of_lt_base small]
        exact single n small
      · have large := Nat.le_of_not_lt small
        have leading := inductionHypothesis (n / base)
          (Nat.div_lt_self (Nat.lt_of_lt_of_le positive large) several)
        have whole := step (n / base) (n % base) (Nat.div_pos large positive)
          (Nat.mod_lt n positive) leading
        rwa [Nat.div_add_mod, ← Nat.toDigits_of_base_le several large] at whole

theorem denotedIn_toDigits (several : 1 < base) (known : base ≤ 16) (n : Nat) :
    denotedIn base (Nat.toDigits base n) = n := by
  apply toDigits_induction (fun number digits => denotedIn base digits = number) several
  · intro digit small
    have value := idxOf_lowerDigits (Nat.lt_of_lt_of_le small known)
    rw [← List.nil_append [digit.digitChar], denotedIn_concat, value]
    exact Nat.zero_add digit
  · intro front digit _ small read
    rw [denotedIn_concat, read, idxOf_lowerDigits (Nat.lt_of_lt_of_le small known)]

theorem inBase_toDigits (several : 1 < base) (known : base ≤ 16) (n : Nat) :
    forall c, c ∈ Nat.toDigits base n -> c ∈ lowerDigits.take base := by
  apply toDigits_induction (fun _ digits => forall c, c ∈ digits -> c ∈ lowerDigits.take base) several
  · intro digit small
    exact List.forall_mem_singleton.mpr (mem_take_lowerDigits known small)
  · intro front digit _ small inside
    exact List.forall_mem_append.mpr
      ⟨inside, List.forall_mem_singleton.mpr (mem_take_lowerDigits known small)⟩

/-- The digits of a number spell it. -/
theorem spellsIn_toDigits (several : 1 < base) (known : base ≤ 16) (n : Nat) :
    SpellsIn base (String.ofList (Nat.toDigits base n)) n := by
  refine ⟨?_, ?_, ?_, ?_⟩ <;> rw [String.toList_ofList]
  · exact Nat.toDigits_ne_nil
  · exact inBase_toDigits several known n
  · intro zero
    cases n with
    | zero => exact Nat.toDigits_zero base
    | succ n => exact absurd zero (head?_toDigits_ne several n.succ_pos)
  · exact denotedIn_toDigits several known n

end TraceView.Numeral
