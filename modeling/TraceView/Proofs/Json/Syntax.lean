import TraceView.Json.Reader

namespace TraceView.Json

/-!
# Documents and their tokens

A document has its tokens: brackets around the items of an array with commas between them, braces
around the members of an object, and a colon between a name and its value.  The reader gives a tree
only for the tokens of this tree.

This is seen from what the reader holds.  The arrays and objects that are open show which tokens
have been read, up to the last one, and each token that is fed is added to them.
-/

mutual

/-- The tokens of a document, in order. -/
def tokens : Json -> List Token
  | .null => [.null]
  | .bool flag => [.bool flag]
  | .integer n => [.integer n]
  | .decimal d => [.decimal d]
  | .string text => [.string text]
  | .array items => .openBracket :: ([Token.comma].intercalate (itemTokens items) ++ [.closeBracket])
  | .object members =>
    .openBrace :: ([Token.comma].intercalate (memberTokens members) ++ [.closeBrace])

/-- The tokens of each item of an array. -/
def itemTokens : List Json -> List (List Token)
  | [] => []
  | item :: rest => item.tokens :: itemTokens rest

/-- The tokens of each member of an object. -/
def memberTokens : List (String × Json) -> List (List Token)
  | [] => []
  | (name, value) :: rest => (.string name :: .colon :: value.tokens) :: memberTokens rest

end

theorem itemTokens_eq_map (items : List Json) : itemTokens items = items.map tokens := by
  induction items with
  | nil => rfl
  | cons item rest inductionHypothesis => rw [itemTokens, inductionHypothesis, List.map_cons]

theorem memberTokens_eq_map (members : List (String × Json)) :
    memberTokens members =
      members.map fun member => .string member.1 :: .colon :: member.2.tokens := by
  induction members with
  | nil => rfl
  | cons member rest inductionHypothesis =>
      rcases member with ⟨name, value⟩
      rw [memberTokens, inductionHypothesis, List.map_cons]

/-! ## What has been read -/

/-- Parts that are each followed by a comma. -/
def continued (parts : List (List Token)) : List Token :=
  parts.flatMap (· ++ [.comma])

theorem intercalate_append (parts : List (List Token)) (last : List Token) :
    [Token.comma].intercalate (parts ++ [last]) = continued parts ++ last := by
  induction parts with
  | nil =>
      rw [List.nil_append, List.intercalate_singleton]
      rfl
  | cons part rest inductionHypothesis =>
      have more : rest ++ [last] ≠ [] := List.append_ne_nil_of_right_ne_nil _ (List.cons_ne_nil _ _)
      have first : continued (part :: rest) = part ++ [.comma] ++ continued rest := List.flatMap_cons
      rw [List.cons_append, List.intercalate_cons_of_ne_nil more, inductionHypothesis, first,
        List.append_assoc, List.append_assoc, List.append_assoc]

theorem continued_append (parts : List (List Token)) (last : List Token) :
    continued (parts ++ [last]) = continued parts ++ last ++ [.comma] := by
  rw [continued, List.flatMap_append, List.flatMap_singleton, ← List.append_assoc]
  rfl

namespace Reader

/-- The tokens before a value that the innermost open array or object waits for. -/
def before : List Frame -> List Token
  | [] => []
  | .array items :: outer => before outer ++ .openBracket :: continued (itemTokens items.reverse)
  | .object members key :: outer =>
    before outer ++ .openBrace ::
      (continued (memberTokens members.reverse) ++ [.string key, .colon])

/-- The states that a reader comes into, with the tokens that it has read. -/
inductive Holds : Reader -> List Token -> Prop where
  | value (frames : List Frame) : Holds ⟨frames, .value, none⟩ (before frames)
  | firstItem (outer : List Frame) :
      Holds ⟨.array [] :: outer, .firstItem, none⟩ (before outer ++ [.openBracket])
  | firstName (outer : List Frame) (key : String) :
      Holds ⟨.object [] key :: outer, .firstName, none⟩ (before outer ++ [.openBrace])
  | item (item : Json) (items : List Json) (outer : List Frame) :
      Holds ⟨.array (item :: items) :: outer, .separator, none⟩
        (before outer ++ .openBracket ::
          (continued (itemTokens items.reverse) ++ item.tokens))
  | member (name key : String) (value : Json) (members : List (String × Json)) (outer : List Frame) :
      Holds ⟨.object ((name, value) :: members) key :: outer, .separator, none⟩
        (before outer ++ .openBrace ::
          (continued (memberTokens members.reverse) ++ .string name :: .colon :: value.tokens))
  | name (members : List (String × Json)) (key : String) (outer : List Frame) :
      Holds ⟨.object members key :: outer, .name, none⟩
        (before outer ++ .openBrace :: continued (memberTokens members.reverse))
  | colon (members : List (String × Json)) (key : String) (outer : List Frame) :
      Holds ⟨.object members key :: outer, .colon, none⟩
        (before outer ++ .openBrace ::
          (continued (memberTokens members.reverse) ++ [.string key]))
  | nothing (tree : Json) : Holds ⟨[], .nothing, some tree⟩ tree.tokens

variable {reader next last : Reader} {token : Token} {read : List Token}

theorem holds_deliver (tree : Json) (frames : List Frame) :
    Holds (deliver tree frames) (before frames ++ tree.tokens) := by
  cases frames with
  | nil => exact .nothing tree
  | cons frame outer =>
      cases frame with
      | array items =>
          rw [before, List.append_assoc, List.cons_append]
          exact .item tree items outer
      | object members key =>
          rw [before, List.append_assoc, List.cons_append, List.append_assoc]
          exact .member key key tree members outer

theorem holds_beginValue {frames : List Frame} {expects : Expectation}
    (fed : beginValue ⟨frames, expects, none⟩ token = .ok next) :
    Holds next (before frames ++ [token]) := by
  cases token with
  | openBracket =>
      cases fed
      exact .firstItem frames
  | openBrace =>
      cases fed
      exact .firstName frames ""
  | null =>
      cases fed
      exact holds_deliver .null frames
  | bool flag =>
      cases fed
      exact holds_deliver (.bool flag) frames
  | integer n =>
      cases fed
      exact holds_deliver (.integer n) frames
  | decimal d =>
      cases fed
      exact holds_deliver (.decimal d) frames
  | string text =>
      cases fed
      exact holds_deliver (.string text) frames
  | _ => cases fed

/-- A name after the members of an open object. -/
theorem holds_beginMember {members : List (String × Json)} {key : String} {outer : List Frame}
    {expects : Expectation}
    (fed : beginMember ⟨.object members key :: outer, expects, none⟩ token = .ok next) :
    Holds next (before outer ++ .openBrace ::
      (continued (memberTokens members.reverse) ++ [token])) := by
  cases token with
  | string name =>
      cases fed
      exact .colon members name outer
  | _ => cases fed

/-- An array or object that ends is a value of the frame outside. -/
theorem holds_closed {frame : Frame} {outer : List Frame} {ts : List Token}
    (complete : before outer ++ (closed frame).tokens = ts) :
    Holds (deliver (closed frame) outer) ts := by
  rw [← complete]
  exact holds_deliver _ _

theorem tokens_closed_array (item : Json) (items : List Json) :
    (closed (.array (item :: items))).tokens =
      .openBracket :: (continued (itemTokens items.reverse) ++ item.tokens ++ [.closeBracket]) := by
  rw [closed, tokens, itemTokens_eq_map, List.reverse_cons, List.map_append, List.map_singleton,
    intercalate_append, ← itemTokens_eq_map]

theorem tokens_closed_object (name key : String) (value : Json) (members : List (String × Json)) :
    (closed (.object ((name, value) :: members) key)).tokens =
      .openBrace :: (continued (memberTokens members.reverse) ++
        .string name :: .colon :: value.tokens ++ [.closeBrace]) := by
  rw [closed, tokens, memberTokens_eq_map, List.reverse_cons, List.map_append, List.map_singleton,
    intercalate_append, ← memberTokens_eq_map]

/-- Each token is added to those that have been read. -/
theorem holds_feed (holds : Holds reader read) (fed : reader.feed token = .ok next) :
    Holds next (read ++ [token]) := by
  cases holds with
  | value frames => exact holds_beginValue fed
  | firstItem outer =>
      have begun : token ≠ .closeBracket ->
          beginValue ⟨.array [] :: outer, .firstItem, none⟩ token = .ok next := by
        intro unended
        cases token <;> first | exact fed | exact absurd rfl unended
      by_cases ended : token = .closeBracket
      · cases ended
        cases fed
        apply holds_closed
        rw [List.append_assoc]
        rfl
      · exact holds_beginValue (begun ended)
  | firstName outer key =>
      have begun : token ≠ .closeBrace ->
          beginMember ⟨.object [] key :: outer, .firstName, none⟩ token = .ok next := by
        intro unended
        cases token <;> first | exact fed | exact absurd rfl unended
      by_cases ended : token = .closeBrace
      · cases ended
        cases fed
        apply holds_closed
        rw [List.append_assoc]
        rfl
      · rw [List.append_assoc]
        exact holds_beginMember (begun ended)
  | item item items outer =>
      rw [List.append_assoc, List.cons_append]
      cases token with
      | closeBracket =>
          cases fed
          apply holds_closed
          rw [tokens_closed_array]
      | comma =>
          cases fed
          have whole := Holds.value (.array (item :: items) :: outer)
          rw [before, itemTokens_eq_map, List.reverse_cons, List.map_append, List.map_singleton,
            continued_append, ← itemTokens_eq_map] at whole
          exact whole
      | _ => cases fed
  | member name key value members outer =>
      rw [List.append_assoc, List.cons_append]
      cases token with
      | closeBrace =>
          cases fed
          apply holds_closed
          rw [tokens_closed_object]
      | comma =>
          cases fed
          have whole := Holds.name ((name, value) :: members) key outer
          rw [memberTokens_eq_map, List.reverse_cons, List.map_append, List.map_singleton,
            continued_append, ← memberTokens_eq_map] at whole
          exact whole
      | _ => cases fed
  | name members key outer =>
      rw [List.append_assoc, List.cons_append]
      exact holds_beginMember fed
  | colon members key outer =>
      cases token with
      | colon =>
          cases fed
          rw [List.append_assoc, List.cons_append, List.append_assoc]
          exact .value (.object members key :: outer)
      | _ => cases fed
  | nothing tree => cases fed

theorem holds_feedAll {ts : List Token} (holds : Holds reader read)
    (fed : reader.feedAll ts = (last, none)) : Holds last (read ++ ts) := by
  induction ts generalizing reader read with
  | nil =>
      cases fed
      rw [List.append_nil]
      exact holds
  | cons token rest inductionHypothesis =>
      rw [feedAll] at fed
      cases first : reader.feed token with
      | error problem =>
          rw [first] at fed
          cases fed
      | ok next =>
          rw [first] at fed
          have whole := inductionHypothesis (holds_feed holds first) fed
          rwa [List.append_assoc] at whole

/-- A tree is read only from its own tokens. -/
theorem Holds.eq_tokens {tree : Json} (holds : Holds reader read)
    (complete : reader.root = some tree) : read = tree.tokens := by
  cases holds <;> cases complete
  rfl

end Reader

/-! ## Whole documents -/

namespace Reading

variable {dialect : Dialect} {scanner : Scanner} {reader : Reader} {byte : UInt8}
  {rest : List UInt8} {tree : Json}

/-- At the end of the bytes a document is complete, and nothing is left but the beginning of a text, if
that is allowed. -/
theorem atEnd_eq_whole_iff :
    atEnd dialect scanner reader = .whole tree ↔
      Exists fun tokens : List Token => Exists fun next : Scanner => Exists fun last : Reader =>
        scanner.step dialect 32 = (tokens, .ok next) ∧ reader.feedAll tokens = (last, none) ∧
          last.root = some tree ∧
          (next = .between ∨
            dialect.openTail = true ∧ Exists fun t : PartialText => next = .text t) := by
  unfold atEnd
  rcases stepped : scanner.step dialect 32 with ⟨tokens, outcome⟩
  rcases fed : reader.feedAll tokens with ⟨last, stop⟩
  dsimp only
  rw [fed]
  constructor
  · intro found
    cases stop with
    | some problem => cases found
    | none =>
        cases outcome with
        | error problem => cases found
        | ok next =>
            refine ⟨tokens, next, last, rfl, fed, ?_⟩
            cases next with
            | between =>
                cases root : last.root with
                | none =>
                    simp only [root, reduceCtorEq] at found
                | some other =>
                    simp only [root, whole.injEq] at found
                    exact ⟨congrArg some found, .inl rfl⟩
            | text t =>
                cases root : last.root with
                | none => simp only [root, reduceCtorEq] at found
                | some other =>
                    cases tail : dialect.openTail with
                    | false => simp only [root, tail, reduceCtorEq] at found
                    | true =>
                        simp only [root, tail, whole.injEq] at found
                        exact ⟨congrArg some found, .inr ⟨rfl, t, rfl⟩⟩
            | word toCome token => cases found
            | number part written => cases found
  · rintro ⟨others, next, final, same, given, root, ended⟩
    cases same
    rw [fed] at given
    cases given
    rcases ended with same | ⟨tail, t, same⟩
    · simp only [same, root]
    · simp only [same, root, tail]

theorem run_cons_eq_whole_iff :
    run dialect scanner reader (byte :: rest) = .whole tree ↔
      Exists fun tokens : List Token => Exists fun next : Scanner => Exists fun last : Reader =>
        scanner.step dialect byte = (tokens, .ok next) ∧ reader.feedAll tokens = (last, none) ∧
          run dialect next last rest = .whole tree := by
  rw [run]
  rcases stepped : scanner.step dialect byte with ⟨tokens, outcome⟩
  rcases fed : reader.feedAll tokens with ⟨last, stop⟩
  dsimp only
  rw [fed]
  constructor
  · intro found
    cases stop with
    | some problem => cases found
    | none =>
        cases outcome with
        | error problem => cases found
        | ok next => exact ⟨tokens, next, last, rfl, fed, found⟩
  · rintro ⟨others, next, final, same, given, found⟩
    cases same
    rw [fed] at given
    cases given
    exact found

/-- What has been read stays in the document that is read in the end. -/
theorem mem_tokens_of_run {read : List Token} (holds : reader.Holds read)
    (found : run dialect scanner reader rest = .whole tree) :
    forall token, token ∈ read -> token ∈ tree.tokens := by
  induction rest generalizing scanner reader read with
  | nil =>
      rcases atEnd_eq_whole_iff.mp found with ⟨tokens, _, last, _, fed, root, _⟩
      rw [← (Reader.holds_feedAll holds fed).eq_tokens root]
      exact fun token listed => List.mem_append_left tokens listed
  | cons byte rest inductionHypothesis =>
      rcases run_cons_eq_whole_iff.mp found with ⟨tokens, _, last, _, fed, later⟩
      intro token listed
      exact inductionHypothesis (Reader.holds_feedAll holds fed) later token
        (List.mem_append_left tokens listed)

/-- What holds of the tokens that a scanner gives out, byte after byte, holds of all tokens of the
document that is read in the end. -/
theorem forall_tokens_of_run {holds : Token -> Prop} {good : Scanner -> Prop}
    (step : forall {scanner next : Scanner} {byte : UInt8} {tokens : List Token}, good scanner ->
      scanner.step dialect byte = (tokens, .ok next) ->
        (forall token, token ∈ tokens -> holds token) ∧ good next)
    {read : List Token} (held : reader.Holds read) (before : forall token, token ∈ read -> holds token)
    (begun : good scanner) (found : run dialect scanner reader rest = .whole tree) :
    forall token, token ∈ tree.tokens -> holds token := by
  induction rest generalizing scanner reader read with
  | nil =>
      rcases atEnd_eq_whole_iff.mp found with ⟨tokens, _, last, stepped, fed, root, _⟩
      rw [← (Reader.holds_feedAll held fed).eq_tokens root]
      exact List.forall_mem_append.mpr ⟨before, (step begun stepped).1⟩
  | cons byte rest inductionHypothesis =>
      rcases run_cons_eq_whole_iff.mp found with ⟨tokens, _, last, stepped, fed, later⟩
      rcases step begun stepped with ⟨given, good⟩
      exact inductionHypothesis (Reader.holds_feedAll held fed)
        (List.forall_mem_append.mpr ⟨before, given⟩) good later

end Reading

/-! ## What holds of the numbers of a document -/

def Token.isNumber : Token -> Bool
  | .integer _ => true
  | .decimal _ => true
  | _ => false

section

variable {holds : Token -> Prop}

theorem forall_intercalate_iff (comma : holds .comma) (parts : List (List Token)) :
    (forall token, token ∈ [Token.comma].intercalate parts -> holds token) ↔
      forall part, part ∈ parts -> forall token, token ∈ part -> holds token := by
  induction parts with
  | nil =>
      exact iff_of_true (fun _ impossible => absurd impossible List.not_mem_nil)
        fun _ impossible => absurd impossible List.not_mem_nil
  | cons part rest inductionHypothesis =>
      rw [List.forall_mem_cons, ← inductionHypothesis]
      by_cases last : rest = []
      · rw [last, List.intercalate_singleton]
        exact (and_iff_left fun _ impossible => absurd impossible List.not_mem_nil).symm
      · rw [List.intercalate_cons_of_ne_nil last, List.forall_mem_append, List.forall_mem_append,
          List.forall_mem_singleton, and_iff_left comma]

variable (others : forall token : Token, token.isNumber = false -> holds token)

include others

/-- What holds of all tokens but numbers holds of those of an array if it holds of those of its
items. -/
theorem forall_tokens_array_iff {items : List Json} :
    (forall token, token ∈ (array items).tokens -> holds token) ↔
      forall item, item ∈ items -> forall token, token ∈ item.tokens -> holds token := by
  rw [tokens, List.forall_mem_cons, List.forall_mem_append, List.forall_mem_singleton,
    forall_intercalate_iff (others .comma rfl), itemTokens_eq_map, List.forall_mem_map,
    and_iff_right (others .openBracket rfl), and_iff_left (others .closeBracket rfl)]

/-- The same of the members of an object. -/
theorem forall_tokens_object_iff {members : List (String × Json)} :
    (forall token, token ∈ (object members).tokens -> holds token) ↔
      forall member, member ∈ members -> forall token, token ∈ member.2.tokens -> holds token := by
  rw [tokens, List.forall_mem_cons, List.forall_mem_append, List.forall_mem_singleton,
    forall_intercalate_iff (others .comma rfl), memberTokens_eq_map, List.forall_mem_map,
    and_iff_right (others .openBrace rfl), and_iff_left (others .closeBrace rfl)]
  simp only [List.forall_mem_cons, others (.string _) rfl, others .colon rfl, true_and]

end

end TraceView.Json
