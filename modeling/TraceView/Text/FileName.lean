import TraceView.Text.Blank
import TraceView.Text.Skeleton

namespace TraceView.Text

/-!
# File names

The name of an uploaded file is shown to others and becomes part of the name of a stored file, so
it is reduced to letters and digits of ASCII and a few marks.  Directories are not kept as such:
separators count as blanks, and runs of blanks become underscores.
-/

def isFileNameChar (c : Char) : Bool :=
  c.isAlphanum || c == '_' || c == '.' || c == '-'

/-- The words of a text, which blanks separate.  `word` is what has been read of the current one,
the last character first. -/
def wordsFrom (word : List Char) : List Char -> List (List Char)
  | [] => if word.isEmpty then [] else [word.reverse]
  | c :: rest =>
    if isAsciiBlank c then
      if word.isEmpty then wordsFrom [] rest else word.reverse :: wordsFrom [] rest
    else wordsFrom (c :: word) rest

def trimmed (isMark : Char -> Bool) (text : List Char) : List Char :=
  ((text.dropWhile isMark).reverse.dropWhile isMark).reverse

/-- The safe form of a file name.  It may be empty. -/
def safeFileName (name : String) : String :=
  let spaced := (skeleton name.toList).map fun c => if c == '/' then ' ' else c
  let joined := ['_'].intercalate (wordsFrom [] spaced)
  String.ofList (trimmed (fun c => c == '.' || c == '_') (joined.filter isFileNameChar))

/-- The part of a name after its last point, if it has a point. -/
def extension? (name : String) : Option String :=
  let characters := name.toList
  if characters.contains '.' then
    some (String.ofList (characters.reverse.takeWhile (· != '.')).reverse)
  else none

end TraceView.Text
