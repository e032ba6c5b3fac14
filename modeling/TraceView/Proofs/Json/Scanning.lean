import TraceView.Proofs.Json.Lexemes
import TraceView.Proofs.Json.Syntax

namespace TraceView.Json

/-!
# What a trace is read from

A trace is read only from the lexemes of its tokens, with blanks around them; a text that does not end
may come after it.  And if it is a decimal out of range that stops the reading, one has been read
where a value may stand.

The scanner does not keep the bytes that it has read, so its states are related to them: the lexemes of
the tokens that it has given out, and after them the beginning of one that is not complete.  A step
continues this, and the run follows by induction on the bytes that are left.
-/

namespace Scanner

/-- The states that the scanner comes into, with the tokens that it has given out and the bytes that it
has read. -/
inductive Scans : Scanner -> List Token -> List UInt8 -> Prop where
  | between {tokens : List Token} {bytes : List UInt8} (front : Lexed traceBlanks tokens bytes) :
      Scans .between tokens bytes
  | word {tokens : List Token} {bytes begun : List UInt8} {toCome : List Char} {token : Token}
      {text : String} (front : Lexed traceBlanks tokens bytes)
      (listed : (token, text) ∈ fixedLexemes) (spelled : letters begun ++ toCome = text.toList) :
      Scans (.word toCome token) tokens (bytes ++ begun)
  | number {tokens : List Token} {bytes begun : List UInt8} {part : NumberPart}
      {written : List Char} (front : Lexed traceBlanks tokens bytes)
      (spelled : letters begun = written.reverse) (reads : part.Reads written.reverse) :
      Scans (.number part written) tokens (bytes ++ begun)
  | text {tokens : List Token} {bytes begun : List UInt8} {t : PartialText}
      (front : Lexed traceBlanks tokens bytes) (reads : t.Reads begun) :
      Scans (.text t) tokens (bytes ++ 34 :: begun)

variable {scanner next : Scanner} {tokens more : List Token} {bytes : List UInt8} {byte : UInt8}

theorem isBlank_trace (blank : isBlank .trace (Char.ofNat byte.toNat) = true) :
    byte ∈ traceBlanks := by
  have named : forall other : UInt8, (Char.ofNat byte.toNat == Char.ofNat other.toNat) = true ->
      byte = other := fun other same => letter_injective (beq_iff_eq.mp same)
  simp only [isBlank, Bool.or_eq_true, Bool.and_eq_true] at blank
  rcases blank with (((same | same) | same) | same) | ⟨_, same | same⟩
  · exact named 32 same ▸ by decide
  · exact named 9 same ▸ by decide
  · exact named 10 same ▸ by decide
  · exact named 13 same ▸ by decide
  · exact named 11 same ▸ by decide
  · exact named 12 same ▸ by decide

theorem listed_of_mark {c : Char} {token : Token} (found : mark? c = some token) :
    Exists fun text : String => (token, text) ∈ fixedLexemes ∧ [c] = text.toList := by
  unfold mark? at found
  split at found <;> cases found
  · exact ⟨"\x7b", by simp [fixedLexemes], rfl⟩
  · exact ⟨"\x7d", by simp [fixedLexemes], rfl⟩
  · exact ⟨"[", by simp [fixedLexemes], rfl⟩
  · exact ⟨"]", by simp [fixedLexemes], rfl⟩
  · exact ⟨":", by simp [fixedLexemes], rfl⟩
  · exact ⟨",", by simp [fixedLexemes], rfl⟩

theorem listed_of_word {c : Char} {toCome : List Char} {token : Token}
    (found : word? .trace c = some (toCome, token)) :
    Exists fun text : String => (token, text) ∈ fixedLexemes ∧ c :: toCome = text.toList := by
  unfold word? at found
  split at found <;> cases found
  · exact ⟨"null", by simp [fixedLexemes], rfl⟩
  · exact ⟨"true", by simp [fixedLexemes], rfl⟩
  · exact ⟨"false", by simp [fixedLexemes], rfl⟩

/-- A byte between tokens is a blank or a mark, or it begins a token. -/
theorem scans_start (front : Lexed traceBlanks tokens bytes)
    (started : start .trace (Char.ofNat byte.toNat) = (more, .ok next)) :
    Scans next (tokens ++ more) (bytes ++ [byte]) := by
  have number : forall part : NumberPart, part.Reads [Char.ofNat byte.toNat] ->
      Scans (.number part [Char.ofNat byte.toNat]) (tokens ++ []) (bytes ++ [byte]) := by
    intro part reads
    rw [List.append_nil]
    exact .number front rfl reads
  unfold start at started
  by_cases blank : isBlank .trace (Char.ofNat byte.toNat) = true
  · rw [if_pos blank] at started
    cases started
    rw [List.append_nil]
    exact .between (.blank front (isBlank_trace blank))
  · rw [if_neg blank] at started
    by_cases quote : (Char.ofNat byte.toNat == '"') = true
    · rw [if_pos quote] at started
      cases started
      have same : byte = 34 := letter_injective (beq_iff_eq.mp quote)
      rw [same, List.append_nil]
      exact .text front .nothing
    · rw [if_neg quote] at started
      by_cases minus : (Char.ofNat byte.toNat == '-') = true
      · rw [if_pos minus] at started
        cases started
        exact number .minus (congrArg (fun c => [c]) (beq_iff_eq.mp minus))
      · rw [if_neg minus] at started
        by_cases zero : (Char.ofNat byte.toNat == '0') = true
        · rw [if_pos zero] at started
          cases started
          exact number .zero (.inl (congrArg (fun c => [c]) (beq_iff_eq.mp zero)))
        · rw [if_neg zero] at started
          by_cases digit : (Char.ofNat byte.toNat).isDigit = true
          · rw [if_pos digit] at started
            cases started
            refine number .whole
              ⟨[], _, rfl, .inl rfl, NumberPart.areDigits_singleton digit, ?_⟩
            intro same
            exact zero (beq_iff_eq.mpr (Option.some.inj same))
          · rw [if_neg digit] at started
            split at started
            · rename_i token _ found
              cases started
              rcases listed_of_mark found with ⟨text, listed, spelled⟩
              exact .between (.token front (.fixed listed spelled))
            · rename_i toCome token _ found
              cases started
              rcases listed_of_word found with ⟨text, listed, spelled⟩
              rw [List.append_nil]
              exact .word front listed spelled
            · cases started

/-! ### What a byte does

Inside a word it is the next letter or fits nowhere.  A number goes on with it or ends before it, and
then the byte is read as it is between tokens.  A text ends with a quote, or goes on. -/

theorem inWord_eq_ok {toCome : List Char} {token : Token} {c : Char}
    (stepped : inWord toCome token c = (more, .ok next)) :
    toCome = [c] ∧ more = [token] ∧ next = .between ∨
      Exists fun rest : List Char =>
        toCome = c :: rest ∧ more = [] ∧ next = .word rest token := by
  unfold inWord at stepped
  split at stepped
  · cases stepped
  · rename_i last
    by_cases same : (c == last) = true
    · rw [if_pos same] at stepped
      cases stepped
      exact .inl ⟨by rw [beq_iff_eq.mp same], rfl, rfl⟩
    · rw [if_neg same] at stepped
      cases stepped
  · rename_i letter rest _
    by_cases same : (c == letter) = true
    · rw [if_pos same] at stepped
      cases stepped
      exact .inr ⟨rest, by rw [beq_iff_eq.mp same], rfl, rfl⟩
    · rw [if_neg same] at stepped
      cases stepped

theorem inNumber_cases (part : NumberPart) (written : List Char) (c : Char) :
    (Exists fun further : NumberPart =>
      part.next c = some further ∧
        inNumber .trace part written c = ([], .ok (.number further (c :: written)))) ∨
    (Exists fun problem : Problem =>
      numberToken .trace part written = .error problem ∧
        inNumber .trace part written c = ([], .error problem)) ∨
    Exists fun token : Token =>
      numberToken .trace part written = .ok token ∧
        inNumber .trace part written c = (token :: (start .trace c).1, (start .trace c).2) := by
  have unnamed : Dialect.trace.namedNumbers = false := rfl
  cases belongs : part.next c with
  | some further =>
      refine .inl ⟨further, rfl, ?_⟩
      rw [inNumber, belongs]
  | none =>
      right
      cases complete : numberToken .trace part written with
      | error problem =>
          refine .inl ⟨problem, rfl, ?_⟩
          simp only [inNumber, belongs, complete, unnamed, Bool.false_and, Bool.false_eq_true,
            if_false]
      | ok token =>
          refine .inr ⟨token, rfl, ?_⟩
          simp only [inNumber, belongs, complete, unnamed, Bool.false_and, Bool.false_eq_true,
            if_false]

theorem inNumber_eq_ok {part : NumberPart} {written : List Char} {c : Char}
    (stepped : inNumber .trace part written c = (more, .ok next)) :
    (Exists fun further : NumberPart =>
      part.next c = some further ∧ more = [] ∧ next = .number further (c :: written)) ∨
      Exists fun token : Token => Exists fun others : List Token =>
        numberToken .trace part written = .ok token ∧ more = token :: others ∧
          start .trace c = (others, .ok next) := by
  rcases inNumber_cases part written c with
    ⟨further, belongs, same⟩ | ⟨problem, _, same⟩ | ⟨token, complete, same⟩
  · cases stepped.symm.trans same
    exact .inl ⟨further, belongs, rfl, rfl⟩
  · cases stepped.symm.trans same
  · rw [same, Prod.mk.injEq] at stepped
    exact .inr ⟨token, _, complete, stepped.1.symm, Prod.ext rfl stepped.2⟩

theorem inText_eq_ok {t : PartialText} (stepped : inText t byte = (more, .ok next)) :
    t.part = .plain ∧ byte = 34 ∧ more = [t.finish] ∧ next = .between ∨
      Exists fun further : PartialText =>
        t.read byte = .ok further ∧ (t.part = .plain -> byte ≠ 34) ∧ more = [] ∧
          next = .text further := by
  unfold inText at stepped
  by_cases ends : (t.part == .plain && byte == 34) = true
  · rw [if_pos ends] at stepped
    cases stepped
    rw [Bool.and_eq_true, beq_iff_eq, beq_iff_eq] at ends
    exact .inl ⟨ends.1, ends.2, rfl, rfl⟩
  · rw [if_neg ends] at stepped
    cases further : t.read byte with
    | error problem =>
        rw [further] at stepped
        cases stepped
    | ok after =>
        rw [further] at stepped
        cases stepped
        refine .inr ⟨after, rfl, ?_, rfl, rfl⟩
        intro plain same
        rw [plain, same] at ends
        exact ends rfl

/-- A byte leads to the state that it should. -/
theorem scans_step (scans : Scans scanner tokens bytes)
    (stepped : scanner.step .trace byte = (more, .ok next)) :
    Scans next (tokens ++ more) (bytes ++ [byte]) := by
  cases scans with
  | between front => exact scans_start front stepped
  | @word _ bytes begun toCome token text front listed spelled =>
      have longer : letters (begun ++ [byte]) = letters begun ++ [Char.ofNat byte.toNat] :=
        letters_append begun [byte]
      rw [List.append_assoc]
      rcases inWord_eq_ok stepped with ⟨last, rfl, rfl⟩ | ⟨rest, within, rfl, rfl⟩
      · refine .between (.token front (.fixed listed ?_))
        rw [longer, ← last, spelled]
      · rw [List.append_nil]
        refine .word front listed ?_
        rw [longer, List.append_assoc, List.singleton_append, ← within, spelled]
  | @number _ bytes begun part written front spelled reads =>
      rcases inNumber_eq_ok stepped with
        ⟨further, belongs, rfl, rfl⟩ | ⟨token, others, complete, rfl, started⟩
      · rw [List.append_nil, List.append_assoc]
        refine .number front ?_ ?_
        · rw [letters_append, spelled, List.reverse_cons]
          rfl
        · rw [List.reverse_cons]
          exact NumberPart.reads_next reads belongs
      · have scanned :=
          scans_start (.token front (lexeme_numberToken reads spelled complete)) started
        rwa [List.append_assoc] at scanned
  | @text _ bytes begun t front reads =>
      rcases inText_eq_ok stepped with
        ⟨plain, rfl, rfl, rfl⟩ | ⟨further, read, goesOn, rfl, rfl⟩
      · rw [PartialText.Reads, plain] at reads
        rw [List.append_assoc]
        exact .between (.token front (PartialText.lexeme_finish reads))
      · rw [List.append_nil, List.append_assoc, List.cons_append]
        exact .text front (PartialText.reads_read reads goesOn read)

/-! ### The end

The end of the bytes is read like a blank after them. -/

theorem not_blank_of_listed {token : Token} {text : String} {toCome : List Char} {begun : List UInt8}
    (listed : (token, text) ∈ fixedLexemes) (spelled : letters begun ++ toCome = text.toList) :
    ' ' ∉ toCome := by
  have none : forall pair, pair ∈ fixedLexemes -> ' ' ∉ pair.2.toList := by
    simp [fixedLexemes]
  intro member
  apply none (token, text) listed
  rw [← spelled]
  exact List.mem_append_right _ member

/-- If the end of the bytes is between tokens, they have been read completely. -/
theorem lexed_of_end (scans : Scans scanner tokens bytes)
    (stepped : scanner.step .trace 32 = (more, .ok .between)) :
    Lexed traceBlanks (tokens ++ more) bytes := by
  cases scans with
  | between front =>
      cases stepped
      rw [List.append_nil]
      exact front
  | @word _ _ begun toCome token text front listed spelled =>
      have unblank := not_blank_of_listed listed spelled
      rcases inWord_eq_ok stepped with ⟨last, _⟩ | ⟨rest, within, _⟩
      · rw [last] at unblank
        exact absurd List.mem_cons_self unblank
      · rw [within] at unblank
        exact absurd List.mem_cons_self unblank
  | @number _ _ begun part written front spelled reads =>
      rcases inNumber_eq_ok stepped with ⟨_, _, _, same⟩ | ⟨token, others, complete, rfl, started⟩
      · cases same
      · cases started
        exact .token front (lexeme_numberToken reads spelled complete)
  | text front reads =>
      rcases inText_eq_ok stepped with ⟨_, same, _⟩ | ⟨_, _, _, _, same⟩
      · exact absurd same (by decide)
      · cases same

/-- If the end of the bytes is inside a text, a document has been read completely before it. -/
theorem lexed_of_tail {t : PartialText} (scans : Scans scanner tokens bytes)
    (stepped : scanner.step .trace 32 = (more, .ok (.text t))) :
    more = [] ∧ Exists fun document : List UInt8 => Exists fun tail : List UInt8 =>
      bytes = document ++ tail ∧ Lexed traceBlanks tokens document ∧ Unfinished tail := by
  cases scans with
  | between front => cases stepped
  | word front listed spelled =>
      rcases inWord_eq_ok stepped with ⟨_, _, same⟩ | ⟨_, _, _, same⟩ <;> cases same
  | number front spelled reads =>
      rcases inNumber_eq_ok stepped with ⟨_, _, _, same⟩ | ⟨_, _, _, _, started⟩
      · cases same
      · cases started
  | @text _ document begun before front reads =>
      rcases inText_eq_ok stepped with ⟨_, _, _, same⟩ | ⟨further, read, _, none, _⟩
      · cases same
      · have content := (PartialText.halved_of_blank reads read).settled
        exact ⟨none, document, _, rfl, front, begun, _, rfl, content⟩

end Scanner

/-! ## Problems -/

/-- The problem of a token that denotes nothing. -/
def Token.problem? : Token -> Option Problem
  | .faultyNumber problem => some problem
  | .faultyString problem => some problem
  | _ => none

theorem problem?_of_listed {token : Token} {text : String}
    (listed : (token, text) ∈ fixedLexemes) : token.problem? = none := by
  have none : forall pair, pair ∈ fixedLexemes -> pair.1.problem? = none := by
    simp [fixedLexemes, Token.problem?]
  exact none (token, text) listed

/-- A decimal out of range is the only lexeme with this problem. -/
theorem Lexeme.vast_of_problem {token : Token} {bytes : List UInt8} (lexeme : Lexeme token bytes)
    (problem : token.problem? = some .outOfRange) : token = .faultyNumber .outOfRange := by
  cases lexeme with
  | fixed listed =>
      rw [problem?_of_listed listed] at problem
      cases problem
  | vast => rfl
  | _ => cases problem

namespace Scanner

variable {scanner next : Scanner} {tokens more : List Token} {bytes : List UInt8} {byte : UInt8}

/-- Between tokens none is given out that denotes nothing. -/
theorem problem?_of_start {dialect : Dialect} {c : Char} {token : Token}
    (given : token ∈ (start dialect c).1) : token.problem? = none := by
  have marked : (start dialect c).1 = [] ∨ (start dialect c).1 = (mark? c).toList := by
    unfold start
    repeat' split
    all_goals try exact .inl rfl
    rename_i found
    exact .inr (by rw [found]; rfl)
  rcases marked with none | found
  · rw [none] at given
    cases given
  · rw [found, Option.mem_toList] at given
    rcases listed_of_mark given with ⟨text, listed, _⟩
    exact problem?_of_listed listed

/-- The scanner gives out a decimal that is out of range only if it has just read one. -/
theorem vast_of_step {token : Token} (scans : Scans scanner tokens bytes)
    (given : token ∈ (scanner.step .trace byte).1) (problem : token.problem? = some .outOfRange) :
    Exists fun before : List UInt8 => Exists fun number : List UInt8 =>
      bytes = before ++ number ∧ Lexed traceBlanks tokens before ∧
        Lexeme (.faultyNumber .outOfRange) number := by
  cases scans with
  | between front =>
      rw [problem?_of_start given] at problem
      cases problem
  | @word _ _ begun toCome word text front listed spelled =>
      have plain := problem?_of_listed listed
      change token ∈ (inWord toCome word (Char.ofNat byte.toNat)).1 at given
      have single : token = word := by
        unfold inWord at given
        repeat' split at given
        all_goals first | exact List.mem_singleton.mp given | cases given
      rw [single, plain] at problem
      cases problem
  | @number _ before number part written front spelled reads =>
      change token ∈ (inNumber .trace part written (Char.ofNat byte.toNat)).1 at given
      rcases inNumber_cases part written (Char.ofNat byte.toNat) with
        ⟨_, _, same⟩ | ⟨_, _, same⟩ | ⟨read, complete, same⟩
      · rw [same] at given
        cases given
      · rw [same] at given
        cases given
      · rw [same] at given
        have lexeme := lexeme_numberToken reads spelled complete
        rcases List.mem_cons.mp given with first | started
        · rw [← first] at lexeme
          rw [lexeme.vast_of_problem problem] at lexeme
          exact ⟨before, number, rfl, front, lexeme⟩
        · rw [problem?_of_start started] at problem
          cases problem
  | @text _ _ begun t front reads =>
      change token ∈ (inText t byte).1 at given
      unfold inText at given
      split at given
      · rw [List.mem_singleton] at given
        rw [given] at problem
        unfold PartialText.finish at problem
        split at problem <;> cases problem
      · cases given

/-- A byte that fits nowhere is no other problem. -/
theorem broken_of_step {problem : Problem}
    (stepped : scanner.step .trace byte = (more, .error problem)) : problem = .broken := by
  have started : forall c, (start .trace c).2 = .error problem -> problem = .broken := by
    intro c failed
    unfold start at failed
    repeat' split at failed
    all_goals cases failed
    rfl
  have failed : (scanner.step .trace byte).2 = .error problem := congrArg Prod.snd stepped
  cases scanner with
  | between => exact started _ failed
  | word toCome token =>
      change (inWord toCome token (Char.ofNat byte.toNat)).2 = _ at failed
      unfold inWord at failed
      repeat' split at failed
      all_goals cases failed
      all_goals rfl
  | number part written =>
      change (inNumber .trace part written (Char.ofNat byte.toNat)).2 = _ at failed
      rcases inNumber_cases part written (Char.ofNat byte.toNat) with
        ⟨_, _, same⟩ | ⟨cause, incomplete, same⟩ | ⟨read, _, same⟩
      · rw [same] at failed
        cases failed
      · rw [same] at failed
        cases failed
        exact broken_of_numberToken incomplete
      · rw [same] at failed
        exact started _ failed
  | text t =>
      change (inText t byte).2 = _ at failed
      unfold inText at failed
      split at failed
      · cases failed
      · cases further : t.read byte with
        | ok after =>
            rw [further] at failed
            cases failed
        | error cause =>
            rw [further] at failed
            cases failed
            exact PartialText.broken_of_read further

end Scanner

/-! ## The run -/

namespace Reader

variable {reader last : Reader} {tokens : List Token} {problem : Problem}

/-- A token is refused as such, or for its own problem. -/
theorem problem_of_feed {token : Token} (refused : reader.feed token = .error problem) :
    problem = .broken ∨ token.problem? = some problem := by
  have value : reader.beginValue token = .error problem ->
      problem = .broken ∨ token.problem? = some problem := by
    intro failed
    cases token <;> cases failed
    all_goals first | exact .inl rfl | exact .inr rfl
  have name : reader.beginMember token = .error problem ->
      problem = .broken ∨ token.problem? = some problem := by
    intro failed
    unfold beginMember at failed
    split at failed <;> cases failed
    · exact .inr rfl
    · exact .inl rfl
  have further : reader.continueFrame token = .error problem -> problem = .broken := by
    intro failed
    unfold continueFrame at failed
    split at failed <;> cases failed
    rfl
  have ended : forall goOn : Reader -> Token -> Except Problem Reader,
      endOr goOn reader token = .error problem -> goOn reader token = .error problem := by
    intro goOn failed
    unfold endOr at failed
    split at failed
    · cases failed
    · exact failed
  unfold feed at refused
  split at refused
  · exact value refused
  · exact value (ended _ refused)
  · exact name (ended _ refused)
  · exact name refused
  · split at refused <;> cases refused
    exact .inl rfl
  · exact .inl (further (ended _ refused))
  · cases refused
    exact .inl rfl

theorem problem_of_feedAll (stopped : reader.feedAll tokens = (last, some problem)) :
    problem = .broken ∨ Exists fun token : Token =>
      token ∈ tokens ∧ token.problem? = some problem := by
  induction tokens generalizing reader with
  | nil => cases stopped
  | cons token rest inductionHypothesis =>
      rw [feedAll] at stopped
      cases first : reader.feed token with
      | error cause =>
          rw [first] at stopped
          cases stopped
          exact (problem_of_feed first).imp_right fun own => ⟨token, List.mem_cons_self, own⟩
      | ok next =>
          rw [first] at stopped
          rcases inductionHypothesis stopped with broken | ⟨other, member, own⟩
          · exact .inl broken
          · exact .inr ⟨other, List.mem_cons_of_mem _ member, own⟩

end Reader

namespace Reading

/-- What a reading says of the bytes.  A tree has been read from its own lexemes, and an exponent out
of range from those of a decimal after other tokens. -/
def Shows (bytes : List UInt8) : Reading -> Prop
  | .whole tree => Exists fun document : List UInt8 => Exists fun tail : List UInt8 =>
      bytes = document ++ tail ∧ Lexed traceBlanks tree.tokens document ∧
        (tail = [] ∨ Unfinished tail)
  | .stopped _ problem => problem = .outOfRange -> Exists fun tokens : List Token =>
      Exists fun before : List UInt8 => Exists fun number : List UInt8 =>
        Exists fun after : List UInt8 =>
          bytes = before ++ (number ++ after) ∧ Lexed traceBlanks tokens before ∧
            Lexeme (.faultyNumber .outOfRange) number

variable {scanner : Scanner} {reader last : Reader} {tokens more : List Token}
  {bytes rest : List UInt8} {byte : UInt8} {problem : Problem}

theorem shows_stopped_of_token (scans : scanner.Scans tokens bytes)
    (given : (scanner.step .trace byte).1 = more)
    (stopped : reader.feedAll more = (last, some problem)) (rest : List UInt8) :
    (Reading.stopped last.soFar problem).Shows (bytes ++ rest) := by
  intro range
  rcases Reader.problem_of_feedAll stopped with broken | ⟨token, member, own⟩
  · cases broken.symm.trans range
  · rw [range] at own
    rcases Scanner.vast_of_step scans (given ▸ member) own with ⟨before, number, same, front, vast⟩
    exact ⟨tokens, before, number, rest, by rw [same, List.append_assoc], front, vast⟩

theorem shows_stopped_of_byte {soFar : Option Json}
    (stepped : scanner.step .trace byte = (more, .error problem)) :
    (Reading.stopped soFar problem).Shows bytes := by
  intro range
  cases (Scanner.broken_of_step stepped).symm.trans range

theorem shows_broken (soFar : Option Json) : (Reading.stopped soFar .broken).Shows bytes := by
  intro range
  cases range

theorem shows_atEnd (scans : scanner.Scans tokens bytes) (holds : reader.Holds tokens) :
    (atEnd .trace scanner reader).Shows bytes := by
  rcases stepped : scanner.step .trace 32 with ⟨more, outcome⟩
  rcases fed : reader.feedAll more with ⟨last, stop⟩
  simp only [atEnd, stepped, fed]
  cases stop with
  | some problem =>
      have shown := shows_stopped_of_token scans (congrArg Prod.fst stepped) fed []
      rwa [List.append_nil] at shown
  | none =>
      have holds := Reader.holds_feedAll holds fed
      cases outcome with
      | error problem => exact shows_stopped_of_byte stepped
      | ok next =>
          cases next with
          | between =>
              cases root : last.root with
              | none =>
                  simp only [root]
                  exact shows_broken _
              | some tree =>
                  simp only [root]
                  refine ⟨bytes, [], (List.append_nil _).symm, ?_, .inl rfl⟩
                  rw [← holds.eq_tokens root]
                  exact Scanner.lexed_of_end scans stepped
          | text t =>
              cases root : last.root with
              | none =>
                  simp only [root]
                  exact shows_broken _
              | some tree =>
                  simp only [root, Dialect.trace]
                  rcases Scanner.lexed_of_tail scans stepped with
                    ⟨same, document, tail, split, front, unfinished⟩
                  rw [same, List.append_nil] at holds
                  refine ⟨document, tail, split, ?_, .inr unfinished⟩
                  rw [← holds.eq_tokens root]
                  exact front
          | word toCome token => exact shows_broken _
          | number part written => exact shows_broken _

theorem shows_run (scans : scanner.Scans tokens bytes) (holds : reader.Holds tokens) :
    (run .trace scanner reader rest).Shows (bytes ++ rest) := by
  induction rest generalizing scanner reader tokens bytes with
  | nil =>
      rw [run, List.append_nil]
      exact shows_atEnd scans holds
  | cons byte rest inductionHypothesis =>
      rcases stepped : scanner.step .trace byte with ⟨more, outcome⟩
      rcases fed : reader.feedAll more with ⟨last, stop⟩
      simp only [run, stepped, fed]
      cases stop with
      | some problem => exact shows_stopped_of_token scans (congrArg Prod.fst stepped) fed _
      | none =>
          cases outcome with
          | error problem => exact shows_stopped_of_byte stepped
          | ok next =>
              have shown := inductionHypothesis (Scanner.scans_step scans stepped)
                (Reader.holds_feedAll holds fed)
              rwa [List.append_assoc] at shown

end Reading

/-- What reading a trace says of its bytes. -/
theorem shows_read (bytes : List UInt8) : (read .trace bytes).Shows bytes :=
  Reading.shows_run (.between .nothing) (.value [])

end TraceView.Json
