import TraceView.Proofs.Json.Syntax

namespace TraceView

/-!
# Texts that are read alike by all rules

Traces and configuration files are read by different rules, but the rules differ in little.  A
document in which all numbers are integers leaves nothing of it: a text that the rules for files
take for such a document is taken for the same one by the rules for traces.

A document is read from its own tokens, so if there is no decimal in it then none has been read.  The
beginning of the name of a number is seen only from what follows, so the proof goes backwards through
the text.
-/

namespace Json

/-- A document in which all numbers are integers. -/
inductive Integral : Json -> Prop where
  | null : Integral .null
  | bool (flag : Bool) : Integral (.bool flag)
  | integer (n : Int) : Integral (.integer n)
  | string (text : String) : Integral (.string text)
  | array {items : List Json} (inside : forall item, item ∈ items -> Integral item) :
      Integral (.array items)
  | object {members : List (String × Json)}
      (inside : forall member, member ∈ members -> Integral member.2) : Integral (.object members)

/-- Without decimals it does not matter what becomes of them. -/
theorem Integral.value_eq {tree : Json} (integral : tree.Integral) (first second : Decimal -> Value) :
    tree.value first = tree.value second := by
  induction integral with
  | null => rfl
  | bool flag => rfl
  | integer n => rfl
  | string text => rfl
  | @array items inside inductionHypothesis =>
      rw [value, value]
      congr 1
      clear inside
      induction items with
      | nil => rfl
      | cons item rest others =>
          rcases List.forall_mem_cons.mp inductionHypothesis with ⟨here, later⟩
          rw [itemValues, itemValues, here, others later]
  | @object members inside inductionHypothesis =>
      rw [value, value]
      congr 2
      clear inside
      induction members with
      | nil => rfl
      | cons member rest others =>
          rcases List.forall_mem_cons.mp inductionHypothesis with ⟨here, later⟩
          rw [memberValues, memberValues, here, others later]

/-! ## Tokens -/

/-- A token that is no decimal. -/
def Token.Integral : Token -> Prop
  | .decimal _ => False
  | _ => True

theorem Token.integral_of_not_isNumber (token : Token) (other : token.isNumber = false) :
    token.Integral := by
  cases token with
  | decimal d => cases other
  | _ => trivial

theorem Integral.tokens {tree : Json} (integral : tree.Integral) :
    forall token, token ∈ tree.tokens -> token.Integral := by
  induction integral with
  | array inside inductionHypothesis =>
      exact (forall_tokens_array_iff Token.integral_of_not_isNumber).mpr inductionHypothesis
  | object inside inductionHypothesis =>
      exact (forall_tokens_object_iff Token.integral_of_not_isNumber).mpr inductionHypothesis
  | _ => exact List.forall_mem_singleton.mpr trivial

/-! ## Bytes -/

namespace Scanner

/-- A scanner that is not inside the name of a number. -/
def Integral : Scanner -> Prop
  | .word _ token => token.Integral
  | _ => True

variable {scanner next : Scanner} {tokens : List Token} {c : Char}

/-- The words that only files know name decimals. -/
theorem word?_alike (c : Char) : word? .settings c = word? .trace c ∨ c = 'N' ∨ c = 'I' := by
  by_cases undefined : c = 'N'
  · exact Or.inr (Or.inl undefined)
  · by_cases infinite : c = 'I'
    · exact Or.inr (Or.inr infinite)
    · left
      unfold word?
      split <;> first | rfl | contradiction

/-- The blanks that only traces know begin nothing in a file. -/
theorem isBlank_alike (c : Char) :
    isBlank .settings c = isBlank .trace c ∨ c = '\x0b' ∨ c = '\x0c' := by
  by_cases tab : c = '\x0b'
  · exact Or.inr (Or.inl tab)
  · by_cases feed : c = '\x0c'
    · exact Or.inr (Or.inr feed)
    · left
      simp only [isBlank, beq_eq_false_iff_ne.mpr tab, beq_eq_false_iff_ne.mpr feed, Bool.or_self,
        Bool.and_false]

theorem start_alike (begun : start .settings c = (tokens, .ok next)) (integral : next.Integral) :
    start .trace c = (tokens, .ok next) := by
  rcases isBlank_alike c with blanks | tab | feed
  · rcases word?_alike c with words | undefined | infinite
    · unfold start at begun ⊢
      rw [blanks, words] at begun
      exact begun
    · subst undefined
      cases begun
      exact integral.elim
    · subst infinite
      cases begun
      exact integral.elim
  · subst tab
    cases begun
  · subst feed
    cases begun

theorem numberToken_alike {part : NumberPart} {written : List Char} {token : Token}
    (complete : numberToken .settings part written = .ok token) (integral : token.Integral) :
    numberToken .trace part written = .ok token := by
  unfold numberToken at complete ⊢
  generalize String.ofList written.reverse = text at complete ⊢
  by_cases fractional : part = .fraction ∨ part = .power
  · rcases fractional with same | same <;> subst same <;> dsimp only at complete <;>
      cases read : Decimal.read text with
      | none =>
          rw [read] at complete
          cases complete
      | some d =>
          rw [read] at complete
          cases complete
          exact integral.elim
  · cases part with
    | fraction => exact absurd (Or.inl rfl) fractional
    | power => exact absurd (Or.inr rfl) fractional
    | _ => exact complete

theorem inNumber_alike {part : NumberPart} {written : List Char}
    (read : inNumber .settings part written c = (tokens, .ok next))
    (plain : forall token, token ∈ tokens -> token.Integral) (integral : next.Integral) :
    inNumber .trace part written c = (tokens, .ok next) := by
  unfold inNumber at read ⊢
  cases goes : part.next c with
  | some further =>
      rw [goes] at read
      exact read
  | none =>
      rw [goes] at read
      have unnamed : Dialect.trace.namedNumbers = false := rfl
      simp only [unnamed, Bool.false_and, Bool.false_eq_true, if_false]
      dsimp only at read
      split at read
      · cases read
        exact integral.elim
      · cases complete : numberToken .settings part written with
        | error problem =>
            rw [complete] at read
            cases read
        | ok token =>
            rw [complete] at read
            dsimp only at read
            rcases begun : start .settings c with ⟨more, after⟩
            rw [begun] at read
            cases read
            rcases List.forall_mem_cons.mp plain with ⟨here, _⟩
            rw [numberToken_alike complete here]
            dsimp only
            rw [start_alike begun integral]

theorem integral_of_inWord {toCome : List Char} {token : Token}
    (read : inWord toCome token c = (tokens, .ok next))
    (plain : forall token, token ∈ tokens -> token.Integral) (integral : next.Integral) :
    token.Integral := by
  unfold inWord at read
  split at read
  · cases read
  · split at read
    · cases read
      exact plain token List.mem_cons_self
    · cases read
  · split at read
    · cases read
      exact integral
    · cases read

/-- A byte is read alike by both rules, unless it belongs to a decimal. -/
theorem step_alike {byte : UInt8} (read : scanner.step .settings byte = (tokens, .ok next))
    (plain : forall token, token ∈ tokens -> token.Integral) (integral : next.Integral) :
    scanner.step .trace byte = (tokens, .ok next) ∧ scanner.Integral := by
  cases scanner with
  | between => exact ⟨start_alike read integral, trivial⟩
  | word toCome token => exact ⟨read, integral_of_inWord read plain integral⟩
  | number part written => exact ⟨inNumber_alike read plain integral, trivial⟩
  | text t => exact ⟨read, trivial⟩

end Scanner

/-! ## Documents -/

/-- Bytes from which the rules for files read a document without decimals are read alike by the
rules for traces, and are not begun inside the name of a number. -/
theorem Reading.run_alike {scanner : Scanner} {reader : Reader} {read : List Token}
    {bytes : List UInt8} {tree : Json} (holds : reader.Holds read)
    (found : run .settings scanner reader bytes = .whole tree)
    (plain : forall token, token ∈ tree.tokens -> token.Integral) :
    run .trace scanner reader bytes = .whole tree ∧ scanner.Integral := by
  induction bytes generalizing scanner reader read with
  | nil =>
      rcases atEnd_eq_whole_iff.mp found with ⟨tokens, next, last, stepped, fed, root, ended⟩
      rcases ended with same | ⟨impossible, _⟩
      · subst same
        rw [← (Reader.holds_feedAll holds fed).eq_tokens root] at plain
        have given := fun token listed => plain token (List.mem_append_right read listed)
        rcases Scanner.step_alike stepped given trivial with ⟨alike, integral⟩
        exact ⟨atEnd_eq_whole_iff.mpr ⟨tokens, .between, last, alike, fed, root, .inl rfl⟩, integral⟩
      · cases impossible
  | cons byte rest inductionHypothesis =>
      rcases run_cons_eq_whole_iff.mp found with ⟨tokens, next, last, stepped, fed, later⟩
      have further := Reader.holds_feedAll holds fed
      have given := fun token listed =>
        plain token (mem_tokens_of_run further later token (List.mem_append_right read listed))
      rcases inductionHypothesis further later with ⟨laterAlike, nextIntegral⟩
      rcases Scanner.step_alike stepped given nextIntegral with ⟨alike, integral⟩
      exact ⟨run_cons_eq_whole_iff.mpr ⟨tokens, next, last, alike, fed, laterAlike⟩, integral⟩

/-- A text that is a document without decimals by the rules for files is the same document by the
rules for traces. -/
theorem read_alike {bytes : List UInt8} {tree : Json} (found : read .settings bytes = .whole tree)
    (integral : tree.Integral) : read .trace bytes = .whole tree :=
  (Reading.run_alike (.value []) found integral.tokens).1

end Json

end TraceView
