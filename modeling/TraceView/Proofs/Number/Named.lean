import TraceView.Number.Decimal

namespace TraceView

/-!
# Numbers without names

Infinities and the undefined number are spelled by their names, and each of these names has the
letter `n` in it.  A decimal that is spelled without this letter is therefore finite.
-/

theorem Text.mem_of_mem_strip {text : List Char} {c : Char} (member : c ∈ Text.strip text) :
    c ∈ text := by
  unfold Text.strip at member
  have kept := (List.dropWhile_sublist _).subset (List.mem_reverse.mp member)
  exact (List.dropWhile_sublist _).subset (List.mem_reverse.mp kept)

theorem Numeral.mem_of_mem_splitSign {text : List Char} {c : Char}
    (member : c ∈ (Numeral.splitSign text).2) : c ∈ text := by
  unfold Numeral.splitSign at member
  split at member
  · exact List.mem_cons_of_mem _ member
  · exact List.mem_cons_of_mem _ member
  · exact member

theorem Text.toLower_ne_of_isDigit {c : Char} (digit : c.isDigit = true) : c.toLower ≠ 'n' := by
  have bound : c.val ≤ '9'.val := by
    unfold Char.isDigit at digit
    exact of_decide_eq_true (Bool.and_eq_true_iff.mp digit).2
  have small : ¬ (c.val ≥ 'A'.val ∧ c.val ≤ 'Z'.val) :=
    fun letter => absurd (UInt32.le_trans letter.1 bound) (by decide)
  unfold Char.toLower
  rw [dif_neg small]
  intro same
  rw [same] at digit
  exact absurd digit (by decide)

namespace Decimal

/-- A decimal that is neither infinite nor undefined. -/
def IsFinite : Decimal -> Prop
  | .finite _ _ _ => True
  | _ => False

/-- A text without the letter that all names of numbers have. -/
def Unnamed (text : List Char) : Prop :=
  'n' ∉ text.map Char.toLower

instance Unnamed.decidable (text : List Char) : Decidable (Unnamed text) :=
  inferInstanceAs (Decidable (¬ _))

theorem Unnamed.of_mem {text other : List Char} (unnamed : Unnamed text)
    (within : forall c, c ∈ other -> c ∈ text) : Unnamed other := by
  intro lettered
  rcases List.mem_map.mp lettered with ⟨c, member, lower⟩
  exact unnamed (List.mem_map.mpr ⟨c, within c member, lower⟩)

/-- The part of a text without blanks and sign. -/
theorem Unnamed.body {text : List Char} (unnamed : Unnamed text) :
    Unnamed (Numeral.splitSign text).2 :=
  unnamed.of_mem fun _ => Numeral.mem_of_mem_splitSign

theorem ofParts_isFinite {negative : Bool} {whole fraction : List Char} {exponent : Int}
    {d : Decimal} (found : ofParts negative whole fraction exponent = some d) : d.IsFinite := by
  unfold ofParts at found
  rcases Option.bind_eq_some_iff.mp found with ⟨before, _, found⟩
  rcases Option.bind_eq_some_iff.mp found with ⟨after, _, found⟩
  split at found
  · cases found
  · cases found
    trivial

/-- A text without names is read as digits with an optional point and an optional exponent. -/
theorem readBody_of_unnamed {text : List Char} (unnamed : Unnamed text) :
    readBody text =
      (let (negative, body) := Numeral.splitSign text
      let isMark := fun c : Char => c == 'e' || c == 'E'
      let mantissa := body.takeWhile (!isMark ·)
      let whole := mantissa.takeWhile (· != '.')
      let fraction := (mantissa.dropWhile (· != '.')).drop 1
      match body.dropWhile (!isMark ·) with
      | [] => ofParts negative whole fraction 0
      | _ :: power => (readExponent power).bind (ofParts negative whole fraction)) := by
  unfold readBody
  have plain := unnamed.body
  generalize Numeral.splitSign text = parts at plain ⊢
  rcases parts with ⟨negative, body⟩
  have different : forall name : String, 'n' ∈ name.toList ->
      (String.ofList (body.map Char.toLower) == name) = false := by
    intro name lettered
    apply beq_eq_false_iff_ne.mpr
    intro same
    rw [← same, String.toList_ofList] at lettered
    exact plain lettered
  dsimp only
  rw [different "inf" (by decide), different "infinity" (by decide), different "nan" (by decide)]
  rfl

theorem readBody_isFinite {text : List Char} {d : Decimal} (unnamed : Unnamed text)
    (found : readBody text = some d) : d.IsFinite := by
  rw [readBody_of_unnamed unnamed] at found
  dsimp only at found
  split at found
  · exact ofParts_isFinite found
  · rcases Option.bind_eq_some_iff.mp found with ⟨power, _, parts⟩
    exact ofParts_isFinite parts

theorem readPayload_eq_none {text : List Char} (unnamed : Unnamed text) :
    readPayload text = none := by
  unfold readPayload
  have plain := unnamed.body
  generalize Numeral.splitSign text = parts at plain
  rcases parts with ⟨negative, body⟩
  apply if_neg
  intro named
  have letters : (body.take 3).map Char.toLower = ['n', 'a', 'n'] := beq_iff_eq.mp named
  have lettered : 'n' ∈ (body.take 3).map Char.toLower := by
    rw [letters]
    exact List.mem_cons_self
  exact plain.of_mem (fun _ => List.mem_of_mem_take) lettered

/-- What is read from a text without names is finite. -/
theorem read_isFinite {text : String} {d : Decimal} (unnamed : Unnamed text.toList)
    (found : read text = some d) : d.IsFinite := by
  have stripped : Unnamed (Text.strip text.toList) := unnamed.of_mem fun _ => Text.mem_of_mem_strip
  unfold read at found
  rw [readPayload_eq_none stripped, Option.or_none] at found
  exact readBody_isFinite stripped found

end Decimal

end TraceView
