import TraceView.Proofs.Json.Lexemes
import TraceView.Proofs.Json.Numbers

namespace TraceView

/-!
# Documents with too many digits

An integer is read from no more than a certain number of digits.  What this limit does is seen by
comparison with the same rules without it.  A document that is read without the limit is read under it
exactly if all its integers can be written, and is the same document then.  Otherwise the reading
stops at the first integer that cannot be written, and says so.
-/

namespace Numeral

/-- The integer that digits denote, with a minus sign in front of them if it is negative. -/
def ofSigned : List Char -> Int
  | '-' :: digits => -(denoted digits : Int)
  | digits => denoted digits

theorem ofSigned_append {sign digits : List Char} (plain : sign = [] ∨ sign = ['-'])
    (decimal : forall c, c ∈ digits -> c.isDigit = true) :
    ofSigned (sign ++ digits) = signed (sign == ['-']) (denoted digits) := by
  rcases plain with same | same
  · rw [same, List.nil_append]
    cases digits with
    | nil => rfl
    | cons c rest =>
        have noMinus : c ≠ '-' := (unsigned_of_isDigit (decimal c List.mem_cons_self)).1
        unfold ofSigned
        split
        · rename_i begun
          exact absurd (List.cons.inj begun).1 noMinus
        · rfl
  · rw [same]
    rfl

/-- An integer as documents spell it is read if it can be written. -/
theorem read_of_isIntegral {text : List Char} (integral : Json.IsIntegral text) :
    read (String.ofList text) = if Fits (ofSigned text) then some (ofSigned text) else none := by
  rcases integral with ⟨sign, digits, rfl, plain, shape⟩
  have areDigits : Json.AreDigits digits := by
    rcases shape with zero | ⟨areDigits, _⟩
    · rw [zero]
      exact Json.NumberPart.areDigits_singleton rfl
    · exact areDigits
  rcases areDigits with ⟨nonempty, decimal⟩
  have spells : Spells (String.ofList digits) (denoted digits) := by
    constructor <;> rw [String.toList_ofList]
    · exact nonempty
    · exact decimal
    · intro padded
      exact shape.resolve_right fun other => other.2 padded
  have canonical : Nat.toDigits 10 (denoted digits) = digits := by
    rw [← toList_toString, ← spells_iff.mp spells, String.toList_ofList]
  have visible : forall c, c ∈ sign ++ digits -> Text.isBlank c = false := by
    refine List.forall_mem_append.mpr ⟨?_, fun c listed => isBlank_of_isDigit (decimal c listed)⟩
    rcases plain with same | same <;> rw [same]
    · exact fun _ impossible => absurd impossible List.not_mem_nil
    · exact List.forall_mem_singleton.mpr rfl
  have stripped : Text.strip (sign ++ digits) = sign ++ digits :=
    strip_of_ends (fun c first => visible c (List.mem_of_mem_head? first))
      fun c last => visible c (List.mem_of_mem_getLast? last)
  have split : splitSign (sign ++ digits) = (sign == ['-'], digits) :=
    splitSign_append (plain.imp_right .inr) fun c first =>
      unsigned_of_isDigit (decimal c (List.mem_of_mem_head? first))
  have magnitude : (ofSigned (sign ++ digits)).natAbs = denoted digits := by
    rw [ofSigned_append plain decimal]
    cases sign == ['-'] with
    | true => exact Int.natAbs_neg _
    | false => rfl
  simp only [read, String.toList_ofList, stripped, split, digitRun_of_isDigit nonempty decimal,
    Option.bind_some, List.length_map, ofDigits_map, ofSigned_append plain decimal, fits_iff_length]
  rw [← ofSigned_append plain decimal, magnitude, canonical]

end Numeral

namespace Json

/-! ## Rules without the limit -/

/-- The same rules without a limit to the digits of an integer. -/
def Dialect.unlimited (dialect : Dialect) : Dialect :=
  { dialect with integer := fun text => some (Numeral.ofSigned text.toList) }

theorem Dialect.unlimited_power (dialect : Dialect) (count : Nat) :
    dialect.unlimited.integer (String.ofList ('1' :: List.replicate count '0')) =
      some ((10 ^ count : Nat) : Int) := by
  have unsigned : Numeral.ofSigned ('1' :: List.replicate count '0') =
      Numeral.denoted ('1' :: List.replicate count '0') := rfl
  simp only [unlimited, String.toList_ofList, unsigned]
  rw [← Numeral.toDigits_pow, Numeral.denoted_toDigits]

/-- A token that can be written, if it is an integer. -/
def Token.Fits : Token -> Prop
  | .integer n => Numeral.Fits n
  | _ => True

/-- A document in which every integer can be written. -/
def Fits (tree : Json) : Prop :=
  forall token, token ∈ tree.tokens -> token.Fits

theorem Token.fits_of_not_isNumber (token : Token) (other : token.isNumber = false) :
    token.Fits := by
  cases token with
  | integer n => cases other
  | _ => trivial

theorem fits_object_iff {members : List (String × Json)} :
    (object members).Fits ↔ forall member, member ∈ members -> member.2.Fits :=
  forall_tokens_object_iff Token.fits_of_not_isNumber

theorem fits_array_iff {items : List Json} :
    (array items).Fits ↔ forall item, item ∈ items -> item.Fits :=
  forall_tokens_array_iff Token.fits_of_not_isNumber

/-- The least integer that cannot be written, as an item of an array. -/
theorem not_fits_power : ¬ (array [.integer ((10 ^ Numeral.digitLimit : Nat) : Int)]).Fits := by
  intro fits
  have item := fits_array_iff.mp fits _ List.mem_cons_self
  have number : Numeral.Fits ((10 ^ Numeral.digitLimit : Nat) : Int) := item _ List.mem_cons_self
  rw [Numeral.Fits, Int.natAbs_natCast] at number
  exact Nat.lt_irrefl _ number

/-! ## One byte -/

variable {dialect : Dialect} {tokens : List Token}

/-- The limit makes a difference to an integer only. -/
theorem numberToken_unlimited (limited : dialect.integer = Numeral.read) {part : NumberPart}
    {written : List Char} (reads : part.Reads written.reverse) :
    numberToken dialect part written = numberToken dialect.unlimited part written ∨
      Exists fun n : Int => ¬ Numeral.Fits n ∧
        numberToken dialect.unlimited part written = .ok (.integer n) ∧
          numberToken dialect part written = .ok (.faultyNumber .long) := by
  have range : dialect.unlimited.decimalRange = dialect.decimalRange := rfl
  have integer : part = .zero ∨ part = .whole -> IsIntegral written.reverse ->
      numberToken dialect part written = numberToken dialect.unlimited part written ∨
        Exists fun n : Int => ¬ Numeral.Fits n ∧
          numberToken dialect.unlimited part written = .ok (.integer n) ∧
            numberToken dialect part written = .ok (.faultyNumber .long) := by
    intro plain integral
    have unlimited : numberToken dialect.unlimited part written =
        .ok (.integer (Numeral.ofSigned written.reverse)) := by
      rcases plain with same | same <;>
        simp only [same, numberToken, Dialect.unlimited, String.toList_ofList]
    have read := Numeral.read_of_isIntegral integral
    by_cases fits : Numeral.Fits (Numeral.ofSigned written.reverse)
    · rw [if_pos fits] at read
      left
      rw [unlimited]
      rcases plain with same | same <;> simp only [same, numberToken, limited, read]
    · rw [if_neg fits] at read
      refine .inr ⟨_, fits, unlimited, ?_⟩
      rcases plain with same | same <;> simp only [same, numberToken, limited, read]
  cases part with
  | zero => exact integer (.inl rfl) (NumberPart.isIntegral_of_zero reads)
  | whole => exact integer (.inr rfl) (NumberPart.isIntegral_of_whole reads)
  | _ =>
      left
      simp only [numberToken, range]

namespace Scanner

variable {scanner next : Scanner} {byte : UInt8}

/-- A scanner that has begun a number as documents spell it, if it has begun one. -/
def Begun : Scanner -> Prop
  | .number part written => part.Reads written.reverse
  | _ => True

theorem begun_start {c : Char} (started : start dialect c = (tokens, .ok next)) : next.Begun := by
  unfold start at started
  split at started
  · cases started
    trivial
  split at started
  · cases started
    trivial
  split at started
  · rename_i minus
    cases started
    exact congrArg (fun c => [c]) (beq_iff_eq.mp minus)
  split at started
  · rename_i zero
    cases started
    exact .inl (congrArg (fun c => [c]) (beq_iff_eq.mp zero))
  split at started
  · rename_i zero digit
    cases started
    refine ⟨[], [c], rfl, .inl rfl, NumberPart.areDigits_singleton digit, ?_⟩
    intro same
    exact zero (beq_iff_eq.mpr (Option.some.inj same))
  · split at started <;> cases started <;> trivial

theorem begun_step (begun : scanner.Begun)
    (stepped : scanner.step dialect byte = (tokens, .ok next)) : next.Begun := by
  cases scanner with
  | between => exact begun_start stepped
  | word toCome token =>
      simp only [step, inWord] at stepped
      split at stepped
      · cases stepped
      · split at stepped <;> cases stepped
        trivial
      · split at stepped <;> cases stepped
        trivial
  | number part written =>
      simp only [step, inNumber] at stepped
      split at stepped
      · rename_i further goes
        cases stepped
        rw [Begun, List.reverse_cons]
        exact NumberPart.reads_next begun goes
      · split at stepped
        · cases stepped
          trivial
        · split at stepped
          · cases stepped
          · rcases started : start dialect (Char.ofNat byte.toNat) with ⟨more, after⟩
            rw [started] at stepped
            cases stepped
            exact begun_start started
  | text t =>
      simp only [step, inText] at stepped
      split at stepped
      · cases stepped
        trivial
      · rcases read : t.read byte with problem | further
        · rw [read] at stepped
          cases stepped
        · rw [read] at stepped
          cases stepped
          trivial

/-- A byte is read alike with and without the limit, unless an integer with too many digits ends
before it. -/
theorem step_unlimited (limited : dialect.integer = Numeral.read) (begun : scanner.Begun)
    (byte : UInt8) :
    scanner.step dialect byte = scanner.step dialect.unlimited byte ∨
      Exists fun n : Int => Exists fun more : List Token =>
        Exists fun after : Except Problem Scanner =>
          ¬ Numeral.Fits n ∧ scanner.step dialect.unlimited byte = (.integer n :: more, after) ∧
            scanner.step dialect byte = (.faultyNumber .long :: more, after) := by
  cases scanner with
  | number part written =>
      have named : dialect.unlimited.namedNumbers = dialect.namedNumbers := rfl
      simp only [step, inNumber, named]
      cases part.next (Char.ofNat byte.toNat) with
      | some further => exact .inl rfl
      | none =>
          dsimp only
          split
          · exact .inl rfl
          · rcases numberToken_unlimited limited begun with same | ⟨n, long, whole, faulty⟩
            · rw [same]
              exact .inl rfl
            · rw [whole, faulty]
              exact .inr ⟨n, _, _, long, rfl, rfl⟩
  | _ => exact .inl rfl

end Scanner

namespace Reader

variable {reader last : Reader} {more : List Token}

/-- A number that denotes nothing stops the reading. -/
theorem feedAll_faultyNumber_ne (problem : Problem) :
    reader.feedAll (.faultyNumber problem :: more) ≠ (last, none) := by
  have refused : Exists fun other : Problem => reader.feed (.faultyNumber problem) = .error other := by
    rcases reader with ⟨frames, expects, root⟩
    cases expects <;> cases frames with
    | nil => exact ⟨_, rfl⟩
    | cons frame outer => cases frame <;> exact ⟨_, rfl⟩
  rcases refused with ⟨other, refused⟩
  intro fed
  rw [feedAll, refused] at fed
  cases fed

/-- It does so with its own problem where an integer fits. -/
theorem feedAll_faultyNumber {n : Int} (fed : reader.feedAll (.integer n :: more) = (last, none))
    (problem : Problem) :
    reader.feedAll (.faultyNumber problem :: more) = (reader, some problem) := by
  have here : forall next, reader.feed (.integer n) = .ok next ->
      reader.feed (.faultyNumber problem) = .error problem := by
    intro next fits
    rcases reader with ⟨frames, expects, root⟩
    cases expects <;> cases frames with
    | nil => first | rfl | cases fits
    | cons frame outer => cases frame <;> first | rfl | cases fits
  cases first : reader.feed (.integer n) with
  | error other =>
      rw [feedAll, first] at fed
      cases fed
  | ok next => rw [feedAll, here next first]

end Reader

/-! ## Documents -/

namespace Reading

variable {scanner : Scanner} {reader : Reader} {bytes : List UInt8} {tree : Json} {read : List Token}

/-- Bytes from which a document is read under the limit give the same document without it. -/
theorem run_limited (limited : dialect.integer = Numeral.read) (begun : scanner.Begun)
    (found : run dialect scanner reader bytes = .whole tree) :
    run dialect.unlimited scanner reader bytes = .whole tree := by
  have stepped : forall {scanner next : Scanner} {reader last : Reader} {byte : UInt8}
      {tokens : List Token}, scanner.Begun -> scanner.step dialect byte = (tokens, .ok next) ->
        reader.feedAll tokens = (last, none) ->
          scanner.step dialect.unlimited byte = (tokens, .ok next) := by
    intro scanner next reader last byte tokens begun stepped fed
    rcases Scanner.step_unlimited limited begun byte with same | ⟨n, more, after, _, _, faulty⟩
    · exact same ▸ stepped
    · cases faulty.symm.trans stepped
      exact absurd fed (Reader.feedAll_faultyNumber_ne .long)
  induction bytes generalizing scanner reader with
  | nil =>
      rcases atEnd_eq_whole_iff.mp found with ⟨tokens, next, last, read, fed, ended⟩
      exact atEnd_eq_whole_iff.mpr ⟨tokens, next, last, stepped begun read fed, fed, ended⟩
  | cons byte rest inductionHypothesis =>
      rcases run_cons_eq_whole_iff.mp found with ⟨tokens, next, last, read, fed, later⟩
      exact run_cons_eq_whole_iff.mpr ⟨tokens, next, last, stepped begun read fed, fed,
        inductionHypothesis (Scanner.begun_step begun read) later⟩

/-- Bytes from which a document is read without the limit give the same document under it, or the
reading stops at an integer of it that has too many digits. -/
theorem run_unlimited (limited : dialect.integer = Numeral.read) (holds : reader.Holds read)
    (begun : scanner.Begun) (found : run dialect.unlimited scanner reader bytes = .whole tree) :
    run dialect scanner reader bytes = .whole tree ∨
      (Exists fun soFar : Option Json => run dialect scanner reader bytes = .stopped soFar .long) ∧
        ¬ tree.Fits := by
  induction bytes generalizing scanner reader read with
  | nil =>
      rcases atEnd_eq_whole_iff.mp found with ⟨tokens, next, last, stepped, fed, root, ended⟩
      rcases Scanner.step_unlimited limited begun 32 with
        same | ⟨n, more, after, long, whole, faulty⟩
      · exact .inl (atEnd_eq_whole_iff.mpr
          ⟨tokens, next, last, same.trans stepped, fed, root, ended⟩)
      · cases whole.symm.trans stepped
        right
        constructor
        · refine ⟨reader.soFar, ?_⟩
          rw [run, atEnd, faulty]
          simp only [Reader.feedAll_faultyNumber fed .long]
        · intro fits
          have listed : Token.integer n ∈ tree.tokens := by
            rw [← (Reader.holds_feedAll holds fed).eq_tokens root]
            exact List.mem_append_right read List.mem_cons_self
          exact long (fits _ listed)
  | cons byte rest inductionHypothesis =>
      rcases run_cons_eq_whole_iff.mp found with ⟨tokens, next, last, stepped, fed, later⟩
      have further := Reader.holds_feedAll holds fed
      rcases Scanner.step_unlimited limited begun byte with
        same | ⟨n, more, after, long, whole, faulty⟩
      · rw [run, same.trans stepped]
        simp only [fed]
        exact inductionHypothesis further (Scanner.begun_step begun stepped) later
      · cases whole.symm.trans stepped
        right
        constructor
        · refine ⟨reader.soFar, ?_⟩
          rw [run, faulty]
          simp only [Reader.feedAll_faultyNumber fed .long]
        · intro fits
          have listed : Token.integer n ∈ tree.tokens :=
            mem_tokens_of_run further later _ (List.mem_append_right read List.mem_cons_self)
          exact long (fits _ listed)

end Reading

variable {bytes : List UInt8} {tree : Json}

/-- All integers of a document that has been read under the limit can be written. -/
theorem fits_of_read (limited : dialect.integer = Numeral.read)
    (found : read dialect bytes = .whole tree) : tree.Fits := by
  intro token listed
  have regular := regular_tokens found token listed
  cases token with
  | integer n => exact regular limited
  | _ => trivial

/-- A document is read under the limit if it is read without it and all its integers can be
written. -/
theorem read_eq_whole_iff (limited : dialect.integer = Numeral.read) :
    read dialect bytes = .whole tree ↔ read dialect.unlimited bytes = .whole tree ∧ tree.Fits := by
  have begun : Scanner.between.Begun := trivial
  constructor
  · exact fun found => ⟨Reading.run_limited limited begun found, fits_of_read limited found⟩
  · rintro ⟨found, fits⟩
    rcases Reading.run_unlimited limited (.value []) begun found with same | ⟨_, long⟩
    · exact same
    · exact absurd fits long

/-- Otherwise the reading stops at an integer that cannot be written. -/
theorem read_of_long (limited : dialect.integer = Numeral.read)
    (found : read dialect.unlimited bytes = .whole tree) (long : ¬ tree.Fits) :
    Exists fun soFar : Option Json => read dialect bytes = .stopped soFar .long := by
  have begun : Scanner.between.Begun := trivial
  rcases Reading.run_unlimited limited (.value []) begun found with same | ⟨stopped, _⟩
  · exact absurd (fits_of_read limited same) long
  · exact stopped

end Json

end TraceView
