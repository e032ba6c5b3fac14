import TraceView.Proofs.Json.Respelling
import TraceView.Proofs.Json.Spelling
import TraceView.Proofs.Json.Syntax
import TraceView.Proofs.Number.Named
import TraceView.Proofs.Number.Writable
import TraceView.Proofs.Value.Scalars

namespace TraceView

/-!
# Numbers of a document

A number is kept as it is written, so an integer of a document can be written again.  The dialect
of traces has no names for numbers, so its decimals are finite.  Both facts hold of each token that
is given out, and a document is read from its own tokens, so they hold of all its parts and of the
values of these parts.
-/

/-- A number as a trace may hold it: an integer that can be written, or a finite decimal.  Other
scalars are no numbers. -/
def Value.IsRegular : Value -> Prop
  | .int n => Numeral.Fits n
  | .decimal d => d.IsFinite
  | _ => True

/-- What a scalar of a trace may be: a number of this kind, or null, a truth value or a text. -/
def Value.IsSpelled : Value -> Prop
  | .null => True
  | .bool _ => True
  | .int n => Numeral.Fits n
  | .decimal d => d.IsFinite
  | .string _ => True
  | _ => False

theorem Value.IsSpelled.isRegular {value : Value} (spelled : value.IsSpelled) : value.IsRegular := by
  cases value with
  | int n => exact spelled
  | decimal d => exact spelled
  | _ => trivial

namespace Json

/-- A document with numbers of this kind only. -/
inductive Regular : Json -> Prop where
  | null : Regular .null
  | bool (flag : Bool) : Regular (.bool flag)
  | integer {n : Int} (fits : Numeral.Fits n) : Regular (.integer n)
  | decimal {d : Decimal} (finite : d.IsFinite) : Regular (.decimal d)
  | string (text : String) : Regular (.string text)
  | array {items : List Json} (inside : forall item, item ∈ items -> Regular item) :
      Regular (.array items)
  | object {members : List (String × Json)}
      (inside : forall member, member ∈ members -> Regular member.2) : Regular (.object members)

/-! ## Tokens -/

/-- A number as the rules of a dialect give it out: an integer that can be written, if they limit its
digits, and a finite decimal, if they have no names for numbers. -/
def Token.Regular (dialect : Dialect) : Token -> Prop
  | .integer n => dialect.integer = Numeral.read -> Numeral.Fits n
  | .decimal d => dialect.namedNumbers = false -> d.IsFinite
  | _ => True

variable {dialect : Dialect}

theorem Token.regular_of_not_isNumber (token : Token) (other : token.isNumber = false) :
    token.Regular dialect := by
  cases token with
  | integer n => cases other
  | decimal d => cases other
  | _ => trivial

mutual

/-- A document of such tokens has such numbers. -/
theorem regular_of_tokens : forall {tree : Json},
    (forall token, token ∈ tree.tokens -> token.Regular .trace) -> tree.Regular
  | .null, _ => .null
  | .bool flag, _ => .bool flag
  | .integer _, plain => .integer (List.forall_mem_singleton.mp plain rfl)
  | .decimal _, plain => .decimal (List.forall_mem_singleton.mp plain rfl)
  | .string text, _ => .string text
  | .array _, plain =>
      .array (items_regular ((forall_tokens_array_iff Token.regular_of_not_isNumber).mp plain))
  | .object _, plain =>
      .object (members_regular ((forall_tokens_object_iff Token.regular_of_not_isNumber).mp plain))

theorem items_regular : forall {items : List Json},
    (forall item, item ∈ items -> forall token, token ∈ item.tokens -> token.Regular .trace) ->
      forall item, item ∈ items -> item.Regular
  | [], _ => fun _ impossible => absurd impossible List.not_mem_nil
  | _ :: _, plain => by
      rcases List.forall_mem_cons.mp plain with ⟨first, others⟩
      exact List.forall_mem_cons.mpr ⟨regular_of_tokens first, items_regular others⟩

theorem members_regular : forall {members : List (String × Json)},
    (forall member, member ∈ members ->
      forall token, token ∈ member.2.tokens -> token.Regular .trace) ->
      forall member, member ∈ members -> member.2.Regular
  | [], _ => fun _ impossible => absurd impossible List.not_mem_nil
  | (_, _) :: _, plain => by
      rcases List.forall_mem_cons.mp plain with ⟨first, others⟩
      exact List.forall_mem_cons.mpr ⟨regular_of_tokens first, members_regular others⟩

end

namespace Scanner

/-- A scanner that has read a part of such a token. -/
def Regular (dialect : Dialect) : Scanner -> Prop
  | .word _ token => token.Regular dialect
  | .number _ written => Decimal.Unnamed written
  | _ => True

/-- What reading a byte leads to if only such tokens are given out. -/
def Progress.Regular (dialect : Dialect) (progress : Progress) : Prop :=
  (forall token, token ∈ progress.1 -> token.Regular dialect) ∧
    forall next, progress.2 = .ok next -> next.Regular dialect

theorem Progress.regular_error (problem : Problem) :
    Progress.Regular dialect ([], .error problem) :=
  ⟨fun _ impossible => absurd impossible List.not_mem_nil, fun _ impossible => nomatch impossible⟩

theorem Progress.regular_state {scanner : Scanner} (regular : scanner.Regular dialect) :
    Progress.Regular dialect ([], .ok scanner) := by
  refine ⟨fun _ impossible => absurd impossible List.not_mem_nil, ?_⟩
  intro next same
  cases same
  exact regular

theorem Progress.regular_token {token : Token} (regular : token.Regular dialect) :
    Progress.Regular dialect ([token], .ok .between) := by
  refine ⟨List.forall_mem_singleton.mpr regular, ?_⟩
  intro next same
  cases same
  trivial

theorem regular_mark {c : Char} {token : Token} (marked : mark? c = some token) :
    token.Regular dialect := by
  unfold mark? at marked
  split at marked <;> cases marked <;> trivial

/-- The name of a number is a word only if numbers have names. -/
theorem regular_word {c : Char} {toCome : List Char} {token : Token}
    (begun : word? dialect c = some (toCome, token)) : token.Regular dialect := by
  unfold word? at begun
  split at begun
  · cases begun
    trivial
  · cases begun
    trivial
  · cases begun
    trivial
  · split at begun <;> cases begun
    rename_i named
    exact fun unnamed => absurd named (Bool.eq_false_iff.mp unnamed)
  · split at begun <;> cases begun
    rename_i named
    exact fun unnamed => absurd named (Bool.eq_false_iff.mp unnamed)
  · cases begun

theorem toLower_ne_of_next {part next : NumberPart} {c : Char} (goes : part.next c = some next) :
    c.toLower ≠ 'n' := by
  by_cases digit : c.isDigit = true
  · exact Text.toLower_ne_of_isDigit digit
  · have mark : c = '0' ∨ c = '.' ∨ c = 'e' ∨ c = 'E' ∨ c = '+' ∨ c = '-' := by
      cases part <;>
        simp only [NumberPart.next, digit, Bool.false_eq_true, if_false, Bool.or_eq_true,
          beq_iff_eq, Option.ite_none_right_eq_some, reduceCtorEq] at goes <;> grind
    rcases mark with same | same | same | same | same | same <;> rw [same] <;> decide

theorem regular_start (c : Char) : (start dialect c).Regular dialect := by
  unfold start
  split
  · exact Progress.regular_state trivial
  split
  · exact Progress.regular_state trivial
  split
  · rename_i minus
    apply Progress.regular_state
    rw [beq_iff_eq.mp minus]
    exact (by decide : Decimal.Unnamed ['-'])
  split
  · rename_i zero
    apply Progress.regular_state
    rw [beq_iff_eq.mp zero]
    exact (by decide : Decimal.Unnamed ['0'])
  split
  · rename_i digit
    apply Progress.regular_state
    intro lettered
    exact Text.toLower_ne_of_isDigit digit (List.mem_singleton.mp lettered).symm
  · split
    · rename_i token marked
      exact Progress.regular_token (regular_mark marked)
    · rename_i begun
      exact Progress.regular_state (regular_word begun)
    · exact Progress.regular_error _

theorem regular_inWord {token : Token} (regular : token.Regular dialect) (toCome : List Char)
    (c : Char) : (inWord toCome token c).Regular dialect := by
  unfold inWord
  split
  · exact Progress.regular_error _
  · split
    · exact Progress.regular_token regular
    · exact Progress.regular_error _
  · split
    · exact Progress.regular_state regular
    · exact Progress.regular_error _

theorem regular_numberToken {part : NumberPart} {written : List Char} {token : Token}
    (unnamed : Decimal.Unnamed written)
    (complete : numberToken dialect part written = .ok token) : token.Regular dialect := by
  have text : Decimal.Unnamed (String.ofList written.reverse).toList := by
    rw [String.toList_ofList]
    exact unnamed.of_mem fun _ => List.mem_reverse.mp
  have decimal : numberToken dialect .fraction written = .ok token -> token.Regular dialect := by
    intro complete
    unfold numberToken at complete
    cases found : Decimal.read (String.ofList written.reverse) with
    | none => simp only [found, reduceCtorEq] at complete
    | some d =>
        simp only [found, Except.ok.injEq] at complete
        rw [← complete]
        split
        · trivial
        · exact fun _ => Decimal.read_isFinite text found
  have integer : numberToken dialect .whole written = .ok token -> token.Regular dialect := by
    intro complete
    unfold numberToken at complete
    cases found : dialect.integer (String.ofList written.reverse) with
    | none =>
        simp only [found, Except.ok.injEq] at complete
        rw [← complete]
        trivial
    | some n =>
        simp only [found, Except.ok.injEq] at complete
        rw [← complete]
        intro limited
        rw [limited] at found
        exact Numeral.fits_of_read found
  cases part with
  | fraction => exact decimal complete
  | power => exact decimal complete
  | zero => exact integer complete
  | whole => exact integer complete
  | _ => cases complete

theorem regular_inNumber (part : NumberPart) {written : List Char}
    (plain : Decimal.Unnamed written) (c : Char) :
    (inNumber dialect part written c).Regular dialect := by
  unfold inNumber
  cases goes : part.next c with
  | some next =>
      apply Progress.regular_state
      intro lettered
      rcases List.mem_cons.mp lettered with here | earlier
      · exact toLower_ne_of_next goes here.symm
      · exact plain earlier
  | none =>
      dsimp only
      split
      · rename_i infinite
        apply Progress.regular_state
        intro unnamed
        rw [unnamed] at infinite
        cases infinite
      · cases complete : numberToken dialect part written with
        | error problem => exact Progress.regular_error problem
        | ok token =>
            rcases @regular_start dialect c with ⟨tokens, further⟩
            exact ⟨List.forall_mem_cons.mpr ⟨regular_numberToken plain complete, tokens⟩, further⟩

theorem regular_inText (t : PartialText) (byte : UInt8) : (inText t byte).Regular dialect := by
  unfold inText
  split
  · apply Progress.regular_token
    unfold PartialText.finish
    split <;> trivial
  · refine ⟨fun _ impossible => absurd impossible List.not_mem_nil, ?_⟩
    intro next read
    cases outcome : t.read byte with
    | error problem =>
        rw [outcome] at read
        cases read
    | ok further =>
        rw [outcome] at read
        cases read
        trivial

theorem regular_step {scanner : Scanner} (regular : scanner.Regular dialect) (byte : UInt8) :
    (scanner.step dialect byte).Regular dialect := by
  cases scanner with
  | between => exact regular_start _
  | word toCome token => exact regular_inWord regular toCome _
  | number part written => exact regular_inNumber part regular _
  | text t => exact regular_inText t byte

end Scanner

/-! ## Documents -/

/-- All numbers of a document are as the rules give them out. -/
theorem regular_tokens {bytes : List UInt8} {document : Json}
    (found : read dialect bytes = .whole document) :
    forall token, token ∈ document.tokens -> token.Regular dialect := by
  have step : forall {scanner next : Scanner} {byte : UInt8} {tokens : List Token},
      scanner.Regular dialect -> scanner.step dialect byte = (tokens, .ok next) ->
        (forall token, token ∈ tokens -> token.Regular dialect) ∧ next.Regular dialect := by
    intro scanner next byte tokens regular stepped
    have progress := Scanner.regular_step regular byte
    rw [stepped] at progress
    exact ⟨progress.1, progress.2 next rfl⟩
  have begun : Scanner.between.Regular dialect := trivial
  exact Reading.forall_tokens_of_run step (.value [])
    (fun _ impossible => absurd impossible List.not_mem_nil) begun found

theorem regular_read {bytes : List UInt8} {document : Json}
    (found : read .trace bytes = .whole document) : document.Regular :=
  regular_of_tokens (regular_tokens found)

/-! ## Parts and values -/

theorem partsAt_scalar_regular (address : String) (place : Place) {tree : Json}
    (regular : tree.Regular) (single : tree.isScalar = true) :
    forall part, part ∈ partsAt address place tree -> part.Regular := by
  intro part member
  by_cases here : place.address = address
  · rw [partsAt_here here, List.mem_singleton] at member
    rw [member]
    exact regular
  · rw [partsAt_scalar here single] at member
    exact absurd member List.not_mem_nil

mutual

/-- The parts of such a document. -/
theorem Regular.partsAt (address : String) : forall {tree : Json} (place : Place), tree.Regular ->
    forall part, part ∈ partsAt address place tree -> part.Regular
  | .array items, place, regular => by
      rw [Json.partsAt]
      split
      · exact List.forall_mem_singleton.mpr regular
      · cases regular with
        | array inside => exact itemPartsAt_regular address _ inside
  | .object members, place, regular => by
      rw [Json.partsAt]
      split
      · exact List.forall_mem_singleton.mpr regular
      · cases regular with
        | object inside => exact memberPartsAt_regular address place inside
  | .null, place, regular => partsAt_scalar_regular address place regular rfl
  | .bool flag, place, regular => partsAt_scalar_regular address place regular rfl
  | .integer n, place, regular => partsAt_scalar_regular address place regular rfl
  | .decimal d, place, regular => partsAt_scalar_regular address place regular rfl
  | .string text, place, regular => partsAt_scalar_regular address place regular rfl

theorem itemPartsAt_regular (address : String) : forall {items : List Json} (place : Place),
    (forall item, item ∈ items -> item.Regular) ->
      forall part, part ∈ itemPartsAt address place items -> part.Regular
  | [], _, _ => fun _ impossible => absurd impossible List.not_mem_nil
  | item :: rest, place, inside => by
      rcases List.forall_mem_cons.mp inside with ⟨first, others⟩
      exact List.forall_mem_append.mpr ⟨first.partsAt address place,
        itemPartsAt_regular address place others⟩

theorem memberPartsAt_regular (address : String) :
    forall {members : List (String × Json)} (place : Place),
      (forall member, member ∈ members -> member.2.Regular) ->
        forall part, part ∈ memberPartsAt address place members -> part.Regular
  | [], _, _ => fun _ impossible => absurd impossible List.not_mem_nil
  | (name, member) :: rest, place, inside => by
      rcases List.forall_mem_cons.mp inside with ⟨first, others⟩
      exact List.forall_mem_append.mpr ⟨first.partsAt address _,
        memberPartsAt_regular address place others⟩

end

mutual

/-- The value of such a document has scalars with such numbers only. -/
theorem Regular.exactValue : forall {tree : Json}, tree.Regular ->
    forall scalar, scalar ∈ tree.exactValue.scalars -> scalar.IsSpelled
  | .array items, regular => by
      cases regular with
      | array inside => exact itemValues_spelled inside
  | .object members, regular => by
      cases regular with
      | object inside =>
          intro scalar member
          rcases Value.mem_fieldScalars.mp member with ⟨field, listed, within⟩
          exact memberValues_spelled inside field (Fields.mem_settle listed) scalar within
  | .null, _ => List.forall_mem_singleton.mpr trivial
  | .bool flag, _ => List.forall_mem_singleton.mpr trivial
  | .integer n, .integer fits => List.forall_mem_singleton.mpr fits
  | .decimal d, .decimal finite => List.forall_mem_singleton.mpr finite
  | .string text, _ => List.forall_mem_singleton.mpr trivial

theorem itemValues_spelled : forall {items : List Json},
    (forall item, item ∈ items -> item.Regular) ->
      forall scalar, scalar ∈ Value.itemScalars (itemValues .decimal items) -> scalar.IsSpelled
  | [], _ => fun _ impossible => absurd impossible List.not_mem_nil
  | item :: rest, inside => by
      rcases List.forall_mem_cons.mp inside with ⟨first, others⟩
      exact List.forall_mem_append.mpr ⟨first.exactValue, itemValues_spelled others⟩

theorem memberValues_spelled : forall {members : List (String × Json)},
    (forall member, member ∈ members -> member.2.Regular) ->
      forall field, field ∈ memberValues .decimal members ->
        forall scalar, scalar ∈ field.2.scalars -> scalar.IsSpelled
  | [], _ => fun _ impossible => absurd impossible List.not_mem_nil
  | (name, member) :: rest, inside => by
      rcases List.forall_mem_cons.mp inside with ⟨first, others⟩
      exact List.forall_mem_cons.mpr ⟨first.exactValue, memberValues_spelled others⟩

end

/-! ## Long numbers

A number with many digits is read without looking at each of them, and so is the text of these
digits. -/

namespace Reading

variable {count : Nat}

/-- A power of ten is read as the last item of an array. -/
theorem run_power {reader last : Reader} {n : Int}
    (value : dialect.integer (String.ofList ('1' :: List.replicate count '0')) = some n)
    (fed : reader.feedAll [.integer n, .closeBracket] = (last, none)) (rest : List UInt8) :
    run dialect (.number .whole ['1']) reader (List.replicate count 48 ++ 93 :: rest) =
      run dialect .between last rest := by
  have zeros : letters (List.replicate count 48) = List.replicate count '0' := List.map_replicate
  have follows : NumberPart.whole.follow (letters (List.replicate count 48)) = some .whole := by
    rw [zeros]
    apply NumberPart.follow_digits
    · exact fun _ digit => if_pos digit
    · intro c listed
      rw [(List.mem_replicate.mp listed).2]
      rfl
  have spelled : (List.replicate count '0' ++ ['1']).reverse = '1' :: List.replicate count '0' := by
    rw [List.reverse_append, List.reverse_replicate]
    rfl
  have token : numberToken dialect .whole (List.replicate count '0' ++ ['1']) = .ok (.integer n) := by
    unfold numberToken
    simp only [spelled, value]
  have started : Scanner.between.step dialect 93 = ([.closeBracket], .ok .between) := by
    cases vertical : dialect.verticalBlanks <;>
      simp only [Scanner.step, Scanner.start, Scanner.isBlank, vertical] <;> rfl
  have bracket : forall byte, (93 :: rest).head? = some byte -> byte ∈ enders := by
    intro byte same
    cases same
    decide
  rw [run_follow follows, zeros, List.reverse_replicate]
  rw [Reader.feedAll] at fed
  cases first : reader.feed (.integer n) with
  | error problem =>
      rw [first] at fed
      cases fed
  | ok next =>
      rw [first] at fed
      rw [run_complete (by decide) token first bracket, run]
      simp only [started, fed]

theorem finish_digits (count : Nat) :
    (PartialText.mk (List.replicate count 48 ++ [49]) none .plain).finish =
      .string (String.ofList ('1' :: List.replicate count '0')) := by
  have spelled : (PartialText.mk (List.replicate count 48 ++ [49]) none .plain).settled.reverse =
      49 :: List.replicate count 48 := by
    rw [PartialText.settled, List.reverse_append, List.reverse_replicate]
    rfl
  have zeros : (List.replicate count '0').flatMap String.utf8EncodeChar =
      List.replicate count 48 := by
    rw [List.flatMap_replicate, show String.utf8EncodeChar '0' = [48] from rfl,
      List.flatten_replicate_singleton]
  have encoded : (String.ofList ('1' :: List.replicate count '0')).toByteArray =
      ⟨(49 :: List.replicate count 48).toArray⟩ := by
    apply ByteArray.ext
    rw [String.toByteArray_ofList, List.utf8Encode, List.data_toByteArray, List.flatMap_cons, zeros]
    rfl
  have valid := (String.ofList ('1' :: List.replicate count '0')).isValidUTF8
  rw [PartialText.finish, spelled, ← encoded, String.fromUTF8?, dif_pos valid]
  rfl

/-- The digits of a power of ten are read as a text. -/
theorem run_digits {reader next : Reader}
    (fed : reader.feed (.string (String.ofList ('1' :: List.replicate count '0'))) = .ok next)
    (rest : List UInt8) :
    run dialect (.text ⟨[49], none, .plain⟩) reader (List.replicate count 48 ++ 34 :: rest) =
      run dialect .between next rest := by
  have zeros : forall (written : List UInt8) (later : Nat),
      run dialect (.text ⟨written, none, .plain⟩) reader (List.replicate later 48 ++ 34 :: rest) =
        run dialect (.text ⟨List.replicate later 48 ++ written, none, .plain⟩) reader
          (34 :: rest) := by
    intro written later
    induction later generalizing written with
    | zero => rfl
    | succ later inductionHypothesis =>
        have pushed : List.replicate later 48 ++ 48 :: written =
            List.replicate (later + 1) 48 ++ written := by
          rw [List.replicate_succ', List.append_assoc, List.singleton_append]
        rw [← pushed]
        exact inductionHypothesis (48 :: written)
  have ended : (Scanner.text ⟨List.replicate count 48 ++ [49], none, .plain⟩).step dialect 34 =
      ([.string (String.ofList ('1' :: List.replicate count '0'))], .ok .between) := by
    rw [← finish_digits]
    rfl
  rw [zeros, run, ended]
  simp only [Reader.feedAll, fed]

end Reading

/-- A document with a power of ten as the last item of an array. -/
theorem read_power {count : Nat} {before after : List UInt8} {last : Int -> Reader}
    (reader : Reader) (tree : Int -> Json)
    (value : dialect.integer (String.ofList ('1' :: List.replicate count '0')) =
      some ((10 ^ count : Nat) : Int))
    (begun : forall rest, Reading.run dialect .between .empty (before ++ rest) =
      Reading.run dialect (.number .whole ['1']) reader rest)
    (fed : forall n, reader.feedAll [.integer n, .closeBracket] = (last n, none))
    (ended : forall n, Reading.run dialect .between (last n) after = .whole (tree n)) :
    read dialect (before ++ (List.replicate count 48 ++ 93 :: after)) =
      .whole (tree ((10 ^ count : Nat) : Int)) := by
  rw [read, begun, Reading.run_power value (fed _), ended]

end Json

end TraceView
