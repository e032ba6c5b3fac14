import TraceView.Text.Percent
import TraceView.Web.Authority

namespace TraceView.Web

/-!
# Targets

The target of a request says which resource is asked for.  It may name a scheme and an authority, of
which only the schemes of sockets make a difference, and a fragment, which is never sent.  What
remains is the path and, after a question mark, the query with its arguments.
-/

/-- A target taken apart, as it is written. -/
structure Pieces where
  scheme : List Char
  authority : Authority
  path : List Char
  query : List Char

/-- What a request asks for: the path and the query, and whether a socket is to be opened. -/
structure Target where
  path : List Char
  query : List Char
  isSocket : Bool

namespace Pieces

def isSchemeChar (c : Char) : Bool :=
  c.isAlphanum || c == '+' || c == '-' || c == '.'

def splitScheme (text : List Char) : List Char × List Char :=
  match text.takeWhile (· != ':'), text.dropWhile (· != ':') with
  | first :: more, _ :: rest =>
    if first.isAlpha && more.all isSchemeChar then ((first :: more).map Char.toLower, rest)
    else ([], text)
  | _, _ => ([], text)

/-- The authority of a target, which follows two slashes, and what comes after it. -/
def splitAuthority (text : List Char) : Authority × List Char :=
  let goesOn := fun c : Char => c != '/' && c != '?' && c != '#'
  match text with
  | '/' :: '/' :: rest => (rest.takeWhile goesOn, rest.dropWhile goesOn)
  | other => ([], other)

/-- A target without the blanks and control characters before it, and without tabulators and line
breaks. -/
def visible (text : List Char) : List Char :=
  (text.dropWhile fun c => c.toNat ≤ 32).filter fun c => c != '\t' && c != '\n' && c != '\r'

/-- The pieces of a target, unless its authority is none. -/
def ofText? (text : List Char) : Option Pieces :=
  let (scheme, afterScheme) := splitScheme (visible text)
  let (authority, rest) := splitAuthority afterScheme
  let (path, query) := Authority.splitAtFirst '?' (Authority.splitAtFirst '#' rest).1
  if authority.isWellFormed then some ⟨scheme, authority, path, query⟩ else none

def sent (pieces : Pieces) : List Char :=
  if pieces.query.isEmpty then pieces.path else pieces.path ++ '?' :: pieces.query

/-- The target of the pieces with a path, in which the authority is in ASCII. -/
def encoded? (pieces : Pieces) : Option (List Char) :=
  pieces.authority.ascii?.map fun authority =>
    (if pieces.scheme.isEmpty then [] else pieces.scheme ++ [':']) ++
      (if authority.isEmpty then [] else '/' :: '/' :: authority) ++ pieces.path

end Pieces

namespace Target

def socketSchemes : List String := ["ws", "wss"]

/-- The target of a request, unless an authority in it is unusable.  The target is split when it is
sent and what remains is split once more when it arrives, so a second scheme or authority goes the
way of the first.  The path that is left then may begin with a third authority, which stays part
of the path but is put into ASCII. -/
def ofText? (text : String) : Option Target := do
  let first <- Pieces.ofText? text.toList
  if !first.authority.isUsable then none
  else
    let second <- Pieces.ofText? first.sent
    let path <- (<- Pieces.ofText? second.path).encoded?
    some ⟨path, second.query, socketSchemes.contains (String.ofList first.scheme)⟩

/-- The path as it is looked up: it begins with exactly one slash. -/
def location (target : Target) : String :=
  String.ofList ('/' :: (Text.percentDecoded target.path).toList.dropWhile (· == '/'))

/-- The arguments, in order.  A plus sign stands for a blank. -/
def arguments (target : Target) : List (String × String) :=
  let plain := fun text : List Char =>
    Text.percentDecoded (text.map fun c => if c == '+' then ' ' else c)
  (target.query.splitOn '&').map fun argument =>
    let (name, value) := Authority.splitAtFirst '=' argument
    (plain name, plain value)

end Target

end TraceView.Web
