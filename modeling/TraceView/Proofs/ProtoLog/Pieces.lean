import TraceView.Proofs.Outcome
import TraceView.ProtoLog.Message

namespace TraceView.ProtoLog

/-!
# Templates piece by piece

A template is filled in from left to right, and each directive takes a parameter away from what the
later ones find.  The text can be said without this: a template is a row of pieces, and a piece that
asks for a parameter has a turn, which is the number of earlier pieces that ask for one of the same
family.  It shows the parameter of its family with the number of its turn.  No other piece and no
other parameter matters to it.
-/

/-- What the parameters of a message are for. -/
inductive Family where
  | texts
  | integers
  | doubles
  | truths
  deriving DecidableEq, Repr

def Parameters.of (parameters : Parameters) : Family -> List Value
  | .texts => parameters.texts
  | .integers => parameters.integers
  | .doubles => parameters.doubles
  | .truths => parameters.truths

/-- The family that a directive takes a parameter of.  The three notations of integers share one
family, and so do the three styles of doubles. -/
def Directive.family? : Directive -> Option Family
  | .percent => none
  | .text => some .texts
  | .integer _ => some .integers
  | .double _ => some .doubles
  | .truth => some .truths

/-- A piece of a template. -/
inductive Piece where
  /-- A character that stands for itself. -/
  | literal (c : Char)
  /-- A percent sign and the character after it. -/
  | pair (c : Char)
  /-- A percent sign with nothing after it. -/
  | lone
  deriving DecidableEq, Repr

namespace Piece

def spelling : Piece -> List Char
  | .literal c => [c]
  | .pair c => ['%', c]
  | .lone => ['%']

/-- The family that a piece asks for a parameter of. -/
def family? : Piece -> Option Family
  | .pair c => (Directive.named? c).bind Directive.family?
  | _ => none

/-- What a piece shows when its turn has a number. -/
def shown (parameters : Parameters) (piece : Piece) (turn : Nat) : Except Fault (List Char) :=
  match piece with
  | .pair c =>
    match Directive.named? c with
    | none => .ok piece.spelling
    | some directive =>
      match directive.family? with
      | none => .ok ['%']
      | some family =>
        match (parameters.of family)[turn]? with
        | none => .ok unknownField.toList
        | some value => (parameterText directive value).map String.toList
  | _ => .ok piece.spelling

end Piece

/-- The pieces of a template, from left to right. -/
def pieces : List Char -> List Piece
  | [] => []
  | ['%'] => [.lone]
  | '%' :: c :: rest => .pair c :: pieces rest
  | c :: rest => .literal c :: pieces rest

/-- How many pieces ask for a parameter of a family. -/
def asking (family : Family) (pieces : List Piece) : Nat :=
  pieces.countP fun piece => piece.family? = some family

/-- The turn of a piece after other ones. -/
def turnAfter (before : List Piece) (piece : Piece) : Nat :=
  (piece.family?.map fun family => asking family before).getD 0

/-- Pieces that come after other ones, with their turns. -/
def withTurns (before : List Piece) : List Piece -> List (Piece × Nat)
  | [] => []
  | piece :: rest => (piece, turnAfter before piece) :: withTurns (before ++ [piece]) rest

/-- What pieces show in their turns, one after the other. -/
def showEach (parameters : Parameters) (numbered : List (Piece × Nat)) :
    Except Fault (List (List Char)) :=
  numbered.mapM fun place => place.1.shown parameters place.2

/-- A text with each percent sign doubled. -/
def doubled (text : String) : String :=
  String.ofList (text.toList.flatMap fun c => if c = '%' then ['%', '%'] else [c])

/-- A row of pieces that is a scan of a template: the pieces are the template, a percent sign
never stands for itself before another character, and nothing comes after a lone one. -/
structure IsScan (template : List Char) (all : List Piece) : Prop where
  whole : all.flatMap Piece.spelling = template
  plain : Piece.literal '%' ∉ all
  last : forall before after, all = before ++ .lone :: after -> after = []

/-! ## Scanning -/

theorem isScan_nil : IsScan [] [] where
  whole := rfl
  plain := List.not_mem_nil
  last before after same := by cases before <;> cases same

theorem IsScan.cons {template : List Char} {rest : List Piece} (scan : IsScan template rest)
    (first : Piece) (plain : first ≠ .literal '%') (paired : first ≠ .lone) :
    IsScan (first.spelling ++ template) (first :: rest) where
  whole := by rw [List.flatMap_cons, scan.whole]
  plain listed := (List.mem_cons.mp listed).elim (fun same => plain same.symm) scan.plain
  last before after same := by
    cases before with
    | nil => exact absurd (List.cons.inj same).1 paired
    | cons other before => exact scan.last before after (List.cons.inj same).2

theorem IsScan.tail {template : List Char} {first : Piece} {rest : List Piece}
    (scan : IsScan template (first :: rest)) : IsScan (rest.flatMap Piece.spelling) rest where
  whole := rfl
  plain listed := scan.plain (List.mem_cons_of_mem first listed)
  last before after same := scan.last (first :: before) after (congrArg (first :: ·) same)

theorem isScan_pieces (template : List Char) : IsScan template (pieces template) := by
  induction template using pieces.induct with
  | case1 => exact isScan_nil
  | case2 =>
      refine ⟨rfl, by simp only [pieces, List.mem_singleton, reduceCtorEq, not_false_eq_true], ?_⟩
      intro before after same
      cases before with
      | nil => exact (List.cons.inj same).2.symm
      | cons other before => exact absurd (List.cons.inj same).2.symm (by simp)
  | case3 c rest inductionHypothesis =>
      rw [pieces]
      exact inductionHypothesis.cons (.pair c) (fun same => by cases same) fun same => by cases same
  | case4 c rest ended paired inductionHypothesis =>
      rw [pieces.eq_4 c rest ended paired]
      refine inductionHypothesis.cons (.literal c) ?_ fun same => by cases same
      intro same
      have percent : c = '%' := Piece.literal.inj same
      cases rest with
      | nil => exact ended percent rfl
      | cons next rest => exact paired next rest percent rfl

/-- A template has one scan. -/
theorem isScan_iff {template : List Char} {all : List Piece} :
    IsScan template all ↔ all = pieces template := by
  constructor
  · intro scan
    induction all generalizing template with
    | nil =>
        rw [← scan.whole]
        rfl
    | cons first rest inductionHypothesis =>
        have others := inductionHypothesis scan.tail
        rw [← scan.whole, List.flatMap_cons]
        cases first with
        | literal c =>
            have percent : c ≠ '%' := by
              intro same
              rw [same] at scan
              exact scan.plain List.mem_cons_self
            rw [Piece.spelling, List.singleton_append,
              pieces.eq_4 c _ (fun same => absurd same percent)
                (fun _ _ same => absurd same percent), ← others]
        | pair c =>
            rw [Piece.spelling, List.cons_append, List.singleton_append, pieces, ← others]
        | lone =>
            rw [scan.last [] rest rfl]
            rfl
  · intro same
    rw [same]
    exact isScan_pieces template

/-! ## Turns -/

theorem asking_append (family : Family) (before rest : List Piece) :
    asking family (before ++ rest) = asking family before + asking family rest :=
  List.countP_append

/-- A turn is a number below that of all pieces that ask for the family. -/
theorem turn_lt_asking {before all : List Piece} {piece : Piece} {turn : Nat} {family : Family}
    (listed : (piece, turn) ∈ withTurns before all) (asks : piece.family? = some family) :
    turn < asking family (before ++ all) := by
  induction all generalizing before with
  | nil => exact absurd listed List.not_mem_nil
  | cons first rest inductionHypothesis =>
      rcases List.mem_cons.mp listed with here | later
      · rcases Prod.mk.inj here with ⟨samePiece, sameTurn⟩
        have counted : asking family [first] = 1 := by
          rw [asking, List.countP_singleton, ← samePiece, decide_eq_true asks, if_pos rfl]
        have own : turnAfter before first = asking family before := by
          rw [turnAfter, ← samePiece, asks, Option.map_some, Option.getD_some]
        rw [sameTurn, own, ← List.singleton_append, asking_append, asking_append, counted]
        omega
      · have below := inductionHypothesis later
        rwa [List.append_assoc, List.singleton_append] at below

/-! ## Taking and numbering -/

/-- What is left of the parameters after some pieces. -/
def Parameters.leftBy (parameters : Parameters) (before : List Piece) : Parameters where
  texts := parameters.texts.drop (asking .texts before)
  integers := parameters.integers.drop (asking .integers before)
  doubles := parameters.doubles.drop (asking .doubles before)
  truths := parameters.truths.drop (asking .truths before)

variable {parameters : Parameters} {before : List Piece} {piece : Piece}

theorem Parameters.leftBy_nil (parameters : Parameters) : parameters.leftBy [] = parameters := rfl

theorem asking_concat (family : Family) :
    asking family (before ++ [piece]) =
      asking family before + if piece.family? = some family then 1 else 0 := by
  rw [asking_append]
  congr 1
  rw [asking, List.countP_singleton]
  simp only [decide_eq_true_eq]

/-- A piece that asks for nothing leaves everything. -/
theorem Parameters.leftBy_of_plain (plain : piece.family? = none) :
    parameters.leftBy (before ++ [piece]) = parameters.leftBy before := by
  simp only [leftBy, asking_concat, plain, reduceCtorEq, if_false, Nat.add_zero]

/-- Taking a parameter away leaves what is left after one piece more. -/
theorem Parameters.after_leftBy {c : Char} {directive : Directive}
    (named : Directive.named? c = some directive) :
    (parameters.leftBy before).after directive = parameters.leftBy (before ++ [.pair c]) := by
  have family : (Piece.pair c).family? = directive.family? := by
    rw [Piece.family?, named, Option.bind_some]
  cases directive <;>
    simp only [leftBy, asking_concat, family, Directive.family?, Parameters.after,
      Option.some.injEq, reduceCtorEq, if_true, if_false, Nat.add_zero, List.tail_drop]

/-- The next parameter of what is left is the one whose turn it is. -/
theorem Parameters.next?_leftBy {directive : Directive} {family : Family}
    (takes : directive.family? = some family) :
    (parameters.leftBy before).next? directive = (parameters.of family)[asking family before]? := by
  cases directive <;> cases takes <;> exact List.head?_drop

/-- What a directive shows of what is left. -/
theorem directiveText_leftBy {c : Char} {directive : Directive}
    (named : Directive.named? c = some directive) :
    (directiveText directive (parameters.leftBy before)).map String.toList =
      (Piece.pair c).shown parameters (turnAfter before (.pair c)) := by
  have family : (Piece.pair c).family? = directive.family? := by
    rw [Piece.family?, named, Option.bind_some]
  have turn : turnAfter before (.pair c) =
      (directive.family?.map fun family => asking family before).getD 0 := by
    rw [turnAfter, family]
  rw [turn]
  simp only [Piece.shown, named]
  cases takes : directive.family? with
  | none =>
      cases directive <;> cases takes
      rfl
  | some family =>
      have next := @Parameters.next?_leftBy parameters before directive family takes
      simp only [Option.map_some, Option.getD_some, ← next]
      cases directive with
      | percent => cases takes
      | _ =>
        simp only [directiveText]
        split
        · next value found =>
            simp only [found]
        · next missing =>
            simp only [missing]
            rfl

/-- The first piece shows what it does in its turn, and the others follow. -/
theorem showEach_cons (parameters : Parameters) (before : List Piece) (first : Piece)
    (rest : List Piece) :
    (showEach parameters (withTurns before (first :: rest))).map List.flatten =
      (first.shown parameters (turnAfter before first)).bind fun shown =>
        ((showEach parameters (withTurns (before ++ [first]) rest)).map List.flatten).map
          (shown ++ ·) := by
  rw [withTurns, showEach, List.mapM_cons, ← showEach]
  dsimp only
  cases first.shown parameters (turnAfter before first) with
  | error fault => rfl
  | ok shown => cases showEach parameters (withTurns (before ++ [first]) rest) <;> rfl

/-- Filling in what comes after some pieces gives what its pieces show in their turns. -/
theorem fill_leftBy (template : List Char) (parameters : Parameters) (before : List Piece) :
    fill template (parameters.leftBy before) =
      (showEach parameters (withTurns before (pieces template))).map List.flatten := by
  induction template using pieces.induct generalizing before with
  | case1 => rfl
  | case2 => rfl
  | case3 c rest inductionHypothesis =>
      rw [pieces, showEach_cons, ← inductionHypothesis]
      cases named : Directive.named? c with
      | none =>
          have plain : (Piece.pair c).family? = none := by
            rw [Piece.family?, named, Option.bind_none]
          simp only [fill, named, Piece.shown, Parameters.leftBy_of_plain plain]
          rfl
      | some directive =>
          rw [← directiveText_leftBy named]
          simp only [fill, named, Parameters.after_leftBy named]
          cases directiveText directive (parameters.leftBy before) <;> rfl
  | case4 c rest ended paired inductionHypothesis =>
      have plain : (Piece.literal c).family? = none := rfl
      rw [pieces.eq_4 c rest ended paired, showEach_cons, ← inductionHypothesis,
        Parameters.leftBy_of_plain plain]
      cases rest with
      | nil => rfl
      | cons next rest =>
          rw [fill.eq_4 _ c next rest fun percent => paired next rest percent rfl]
          rfl

theorem messageText_eq (template : String) (parameters : Parameters) :
    messageText template parameters =
      (showEach parameters (withTurns [] (pieces template.toList))).map fun shown =>
        String.ofList shown.flatten := by
  have filled := fill_leftBy template.toList parameters []
  rw [Parameters.leftBy_nil] at filled
  rw [messageText, filled]
  cases showEach parameters (withTurns [] (pieces template.toList)) <;> rfl

/-! ## What matters to a text -/

/-- Pieces show the same if as many parameters of each family are the same as there are pieces that
ask for one. -/
theorem showEach_congr {others : Parameters} {all : List Piece}
    (agree : forall family : Family, (parameters.of family).take (asking family all) =
      (others.of family).take (asking family all)) :
    showEach parameters (withTurns [] all) = showEach others (withTurns [] all) := by
  have alike : forall place, place ∈ withTurns [] all ->
      place.1.shown parameters place.2 = place.1.shown others place.2 := by
    rintro ⟨piece, turn⟩ listed
    cases piece with
    | pair c =>
        cases named : Directive.named? c with
        | none => simp only [Piece.shown, named]
        | some directive =>
            cases takes : directive.family? with
            | none => simp only [Piece.shown, named, takes]
            | some family =>
                have asks : (Piece.pair c).family? = some family := by
                  rw [Piece.family?, named, Option.bind_some, takes]
                have below : turn < asking family all := turn_lt_asking listed asks
                have same : (parameters.of family)[turn]? = (others.of family)[turn]? := by
                  rw [← List.getElem?_take_of_lt below, agree family, List.getElem?_take_of_lt below]
                simp only [Piece.shown, named, takes, same]
    | _ => rfl
  exact mapM_congr alike

/-- A doubled percent sign stands for one. -/
theorem fill_doubled (characters : List Char) (parameters : Parameters) :
    fill (characters.flatMap fun c => if c = '%' then ['%', '%'] else [c]) parameters =
      .ok characters := by
  induction characters with
  | nil => rfl
  | cons c rest inductionHypothesis =>
      rw [List.flatMap_cons]
      by_cases percent : c = '%'
      · rw [if_pos percent, percent]
        have single : Directive.named? '%' = some .percent := rfl
        simp only [List.cons_append, List.nil_append, fill, single, directiveText, Parameters.after,
          inductionHypothesis]
        rfl
      · rw [if_neg percent, List.singleton_append]
        generalize rest.flatMap _ = others at inductionHypothesis ⊢
        cases others with
        | nil =>
            cases inductionHypothesis
            rfl
        | cons next others =>
            rw [fill.eq_4 _ c next others percent, inductionHypothesis]
            rfl

theorem messageText_doubled (text : String) (parameters : Parameters) :
    messageText (doubled text) parameters = .ok text := by
  rw [messageText, doubled, String.toList_ofList, fill_doubled]
  exact congrArg Except.ok String.ofList_toList

/-! ## The reference -/

end TraceView.ProtoLog
