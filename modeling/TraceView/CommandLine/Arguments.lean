import TraceView.Value.Basic

namespace TraceView.CommandLine

/-!
# Arguments

The command line takes the name of one file and switches in any order.  A long switch may be
shortened as long as it stays unambiguous, and short switches may be written together.  Two hyphens
after an equals sign are no value: they take back what was given before.
-/

inductive Flag where
  | help
  | noOperations
  | verbose
  deriving DecidableEq, Repr

inductive Setting where
  | viewerConfig
  | domain
  | index
  deriving DecidableEq, Repr

inductive Switch where
  | flag (flag : Flag)
  | setting (setting : Setting)
  deriving DecidableEq, Repr

def longSpellings : List (String × Switch) :=
  [("--help", .flag .help), ("--viewer-config", .setting .viewerConfig),
    ("--domain", .setting .domain), ("--index", .setting .index),
    ("--no-operations", .flag .noOperations), ("--verbose", .flag .verbose)]

def shortSpellings : List (Char × Flag) := [('h', .help), ('v', .verbose)]

inductive Word where
  | plain (text : String)
  /-- Two hyphens. -/
  | separator
  | flags (flags : List Flag)
  /-- A setting with the value that follows its equals sign, if there is one. -/
  | setting (setting : Setting) (value : Option String)
  /-- A flag that is given a value, or letters of which not all are flags. -/
  | misused
  | unknown
  deriving DecidableEq, Repr

/-- What the command line asks for.  Without a clock it asks for something that cannot be done. -/
structure Arguments where
  inputFile : String
  viewerConfig : Option String
  domain : Option Domain
  indices : Option (List Value)
  applyOperations : Bool
  verbose : Bool

inductive Parsed where
  | run (arguments : Arguments)
  | help
  | usage

/-! ## Words -/

/-- Whether a text is a number with a minus sign.  One line break may end it. -/
def isNegativeNumber (text : List Char) : Bool :=
  let isDigit := fun c : Char => (Text.digit? c).isSome
  match text with
  | '-' :: rest =>
    let body := if rest.getLast? == some '\n' then rest.dropLast else rest
    let fraction := (body.dropWhile isDigit).drop 1
    (!body.isEmpty && body.all isDigit) ||
      ((body.dropWhile isDigit).head? == some '.' && !fraction.isEmpty && fraction.all isDigit)
  | _ => false

/-- A text up to its first equals sign, and what follows the sign if there is one. -/
def splitValue (text : String) : String × Option String :=
  let characters := text.toList
  let name := String.ofList (characters.takeWhile (· != '='))
  match characters.dropWhile (· != '=') with
  | [] => (name, none)
  | _ :: value => (name, some (String.ofList value))

def longWord (switch : Switch) (value : Option String) : Word :=
  match switch with
  | .setting setting => .setting setting value
  | .flag flag => if value.isNone then .flags [flag] else .misused

def shortWord (first : Flag) (letters : List Char) : Word :=
  match letters.mapM (shortSpellings.lookup ·) with
  | some others => .flags (first :: others)
  | none => .misused

def candidates (start : String) : List (String × Switch) :=
  longSpellings.filter fun spelling => start.toList.isPrefixOf spelling.1.toList

/-- The word of a text that begins with a hyphen and is no switch. -/
def otherWord (text : String) : Word :=
  if isNegativeNumber text.toList || text.toList.contains ' ' then .plain text else .unknown

/-- The word of a text that begins with two hyphens; there is none if it may be several switches.
A full spelling is one switch even if a longer one begins with it. -/
def hyphenatedWord (text : String) : Option Word :=
  let (name, value) := splitValue text
  match longSpellings.lookup name, candidates name with
  | some switch, _ => some (longWord switch value)
  | none, [] => some (otherWord text)
  | none, [(_, switch)] => some (longWord switch value)
  | none, _ => none

/-- The word of a letter after a hyphen and what follows it.  An equals sign after the letter is
passed over if letters follow it. -/
def letterWord (text : String) (letter : Char) (rest : List Char) : Word :=
  match shortSpellings.lookup letter, rest with
  | none, _ => otherWord text
  | some _, ['='] => .misused
  | some flag, '=' :: letters => shortWord flag letters
  | some flag, letters => shortWord flag letters

/-- The word of a text, if it is unambiguous. -/
def word? (text : String) : Option Word :=
  match text.toList with
  | '-' :: '-' :: _ => hyphenatedWord text
  | '-' :: letter :: rest => some (letterWord text letter rest)
  | _ => some (.plain text)

def words? : List String -> Option (List Word)
  | [] => some []
  | text :: rest =>
    if text == "--" then some (.separator :: rest.map .plain)
    else do
      let first <- word? text
      let others <- words? rest
      some (first :: others)

/-! ## Arguments from words -/

structure Progress where
  inputFile : Option String
  viewerConfig : Option String
  domain : Option Domain
  indices : Option (List Value)
  applyOperations : Bool
  verbose : Bool
  /-- Whether there was a word that nothing takes. -/
  leftover : Bool

def Progress.start : Progress := ⟨none, none, some .elapsed, none, true, false, false⟩

inductive Step where
  | next (progress : Progress)
  | help
  | usage

def Progress.readFlags (progress : Progress) : List Flag -> Step
  | [] => .next progress
  | .help :: _ => .help
  | .noOperations :: rest => ({ progress with applyOperations := false }).readFlags rest
  | .verbose :: rest => ({ progress with verbose := true }).readFlags rest

def Progress.addIndex (progress : Progress) (index : Value) : Progress :=
  { progress with indices := some (progress.indices.getD [] ++ [index]) }

def Progress.readSetting (progress : Progress) (setting : Setting) (value : String) : Step :=
  match setting with
  | .viewerConfig => .next { progress with viewerConfig := some value }
  | .domain =>
    match Domain.ofWord? value with
    | some domain => .next { progress with domain := some domain }
    | none => .usage
  | .index =>
    match Numeral.read value with
    | some index => .next (progress.addIndex (.int index))
    | none => .usage

/-- Read a setting with no value after its equals sign. -/
def Progress.readBlank (progress : Progress) (setting : Setting) : Progress :=
  match setting with
  | .viewerConfig => { progress with viewerConfig := none }
  | .domain => { progress with domain := none }
  | .index => progress.addIndex (.list [])

/-- Read a plain word: the name of the file, or one too many. -/
def Progress.readPlain (progress : Progress) (text : String) : Progress :=
  match progress.inputFile with
  | none => { progress with inputFile := some text }
  | some _ => { progress with leftover := true }

def Progress.finish (progress : Progress) : Parsed :=
  match progress.inputFile, progress.leftover with
  | some file, false =>
    .run ⟨file, progress.viewerConfig, progress.domain, progress.indices,
      progress.applyOperations, progress.verbose⟩
  | _, _ => .usage

/-- Read words.  A separator next to the name of the file belongs to it; elsewhere nothing takes
it. -/
def Progress.read (progress : Progress) : List Word -> Parsed
  | [] => progress.finish
  | .plain text :: .separator :: rest => (progress.readPlain text).read rest
  | .plain text :: rest => (progress.readPlain text).read rest
  | .separator :: rest =>
    ({ progress with leftover := progress.leftover || progress.inputFile.isSome }).read rest
  | .unknown :: rest => ({ progress with leftover := true }).read rest
  | .misused :: _ => .usage
  | .flags flags :: rest =>
    match progress.readFlags flags with
    | .next further => further.read rest
    | .help => .help
    | .usage => .usage
  | .setting setting (some "--") :: rest => (progress.readBlank setting).read rest
  | .setting setting (some value) :: rest =>
    match progress.readSetting setting value with
    | .next further => further.read rest
    | .help => .help
    | .usage => .usage
  | .setting setting none :: .plain value :: rest =>
    match progress.readSetting setting value with
    | .next further => further.read rest
    | .help => .help
    | .usage => .usage
  | .setting _ none :: _ => .usage

def parse (texts : List String) : Parsed :=
  match words? texts with
  | none => .usage
  | some words => Progress.start.read words

end TraceView.CommandLine
