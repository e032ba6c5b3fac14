import TraceView.Kind
import TraceView.Text.Capital
import TraceView.Web.Part
import TraceView.Web.Target

namespace TraceView.Web

/-!
# Requests

A request has a method, a target and, if it is an upload, the parts of a form.  Of the arguments in
the target only the clock is used.  A part is a file if its header names one; other parts are
fields.
-/

structure Request where
  method : String
  target : Target
  parts : List Part

structure Upload where
  name : String
  bytes : List UInt8

namespace Request

/-- The method, which may be written in either case. -/
def verb (request : Request) : String :=
  Text.capitals request.method

def file? (request : Request) (name : String) : Option Upload :=
  request.parts.findSome? fun part =>
    if part.name = some name then part.fileName.map fun fileName => ⟨fileName, part.bytes⟩
    else none

def partLimit : Nat := 1000

def fieldLimit : Nat := 500000

/-- Whether the form of a request is larger than forms may be.  The files in it may have any
size. -/
def isTooLarge (request : Request) : Bool :=
  partLimit < request.parts.length ||
    request.parts.any fun part => part.fileName.isNone && fieldLimit < part.bytes.length

def field? (request : Request) (name : String) : Option String :=
  request.parts.findSome? fun part =>
    if part.name = some name && part.fileName.isNone then some (Text.ofBytes part.bytes) else none

end Request

/-- The clock that a request asks for: the elapsed one if it names none. -/
def domainArgument? (given : Option String) : Option Domain :=
  match given with
  | none => some .elapsed
  | some "" => some .elapsed
  | some word => Domain.ofWord? word.toLower

/-- The clock that the arguments of a request ask for. -/
def Request.domain? (request : Request) : Option Domain :=
  domainArgument? (request.target.arguments.lookup "domain")

end TraceView.Web
