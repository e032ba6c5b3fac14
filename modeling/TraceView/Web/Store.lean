import TraceView.Text.FileName
import TraceView.Web.Request
import TraceView.Web.Resource
import TraceView.Web.Serve

namespace TraceView.Web

/-!
# The store of traces

Uploaded traces are kept under identifiers until they are deleted.  Only a successful upload adds
a trace and only a successful deletion removes one; every other request reads.  A trace keeps the
decoder that it was loaded with, so what is served for it depends on nothing else in the store.
-/

structure StoredTrace where
  filename : String
  opened : OpenTrace

/-- The stored traces by identifier, and the number of traces that have ever been stored. -/
structure Store where
  traces : List (String × StoredTrace)
  uploads : Nat

/-- The answer to a request.  An answer without a value is a plain page. -/
structure Response where
  status : Nat
  body : Option Value

namespace Response

def ok (body : Value) : Response := ⟨200, some body⟩

def problem (status : Nat) (message : String) : Response :=
  ⟨status, some (.map [("error", .string message)])⟩

def page (status : Nat) : Response := ⟨status, none⟩

def ofServed : Except Fault Value -> Response
  | .ok body => ok body
  | .error _ => page 500

end Response

namespace Store

def empty : Store := ⟨[], 0⟩

def notFound : Response := .problem 404 "Trace not found"

def unknownDomain : Response := .problem 400 "Invalid domain. Use \"elapsed\" or \"real\"."

/-! ## Uploads -/

/-- Whether the name of a file says that it is a document. -/
def allowedFile (name : String) : Bool :=
  match Text.extension? name with
  | some ending => ending.toLower == "json"
  | none => false

/-- The name under which an uploaded configuration is known while its trace is loaded. -/
def configName : String := "viewer_config"

/-- The configuration that comes with an upload, unless the name of its file is empty. -/
def config? (request : Request) : Option Upload :=
  (request.file? configName).filter fun file => !file.name.isEmpty

/-- The largest number of bytes of the safe name of a file.  The file is stored under that name
with twelve characters in front, and no file has a name of more than 255 bytes. -/
def nameLimit : Nat := 243

def canStore (file : Upload) : Bool :=
  (Text.safeFileName file.name).utf8ByteSize ≤ nameLimit

/-- The settings of an upload, with the files that they name. -/
def uploadSettings (request : Request) : Settings × Files :=
  let apply := ((request.field? "apply_operations").getD "true").toLower == "true"
  match config? request with
  | some config => (⟨some configName, apply, none⟩, .only configName (.ok config.bytes))
  | none => (⟨none, apply, none⟩, .nowhere)

def loadProblem : LoadError -> Response
  | .unreadableFile _ _ => .page 500
  | .fault _ => .page 500
  | error => .problem 400 error.message

/-- Load an uploaded file and store the trace under an identifier. -/
def addTrace (store : Store) (id : String) (request : Request) (file : Upload) :
    Store × Response :=
  let (settings, files) := uploadSettings request
  match (loadAlone file.bytes settings files store.uploads).value with
  | .error error => (store, loadProblem error)
  | .ok opened =>
    let filename := Text.safeFileName file.name
    (⟨Fields.put id ⟨filename, opened⟩ store.traces, store.uploads + 1⟩,
      .ok (description id filename opened.trace))

def upload (store : Store) (id : String) (request : Request) : Store × Response :=
  match request.isTooLarge, request.file? "file" with
  | true, _ => (store, .page 413)
  | false, none => (store, .problem 400 "No file provided")
  | false, some file =>
    if file.name.isEmpty then (store, .problem 400 "No file selected")
    else if !allowedFile file.name then
      (store, .problem 400 "Invalid file type. Only JSON files are allowed.")
    else if (file :: (config? request).toList).all canStore then store.addTrace id request file
    else (store, .page 500)

/-! ## Reading and deleting -/

def describe (id : String) (stored : StoredTrace) : Response :=
  .ok (description id stored.filename stored.opened.trace)

def listTimestamps (stored : StoredTrace) (domain : Domain) : Response :=
  match stored.opened.trace.timestamps? domain with
  | none => .problem 404 ("Trace has no " ++ domain.word ++ " timestamps")
  | some timestamps =>
    .ofServed <| (servedTimestamps (some timestamps)).map fun served =>
      .map [("domain", .string domain.word), ("timestamps", served)]

def entryProblem : EntryError -> Response
  | .fault _ => .page 500
  | .outOfRange index length => .problem 404 (EntryError.outOfRange index length).message
  | .missingDomain kind domain => .problem 404 (EntryError.missingDomain kind domain).message
  | error => .problem 422 error.message

def showEntry (stored : StoredTrace) (index : Nat) (domain : Domain) : Response :=
  match (stored.opened.entry (.int index) domain).value with
  | .ok tree => .ofServed (servedTree tree)
  | .error error => entryProblem error

def onDomain (store : Store) (id : String) (request : Request)
    (answer : StoredTrace -> Domain -> Response) : Response :=
  match store.traces.lookup id with
  | none => notFound
  | some stored =>
    match request.domain? with
    | none => unknownDomain
    | some domain => answer stored domain

def delete (store : Store) (id : String) : Store × Response :=
  if (store.traces.lookup id).isSome then
    ({ store with traces := Fields.erase id store.traces },
      .ok (.map [("deleted", .string id)]))
  else (store, notFound)

/-! ## All requests -/

def get (store : Store) (resource : Resource) (request : Request) : Response :=
  match resource with
  | .traces => .page 405
  | .trace id =>
    match store.traces.lookup id with
    | some stored => describe id stored
    | none => notFound
  | .timestamps id => store.onDomain id request listTimestamps
  | .entry _ none => .page 404
  | .entry id (some index) =>
    store.onDomain id request fun stored domain => showEntry stored index domain
  | .file => .page 404

def respondTo (store : Store) (id : String) (resource : Resource) (request : Request) :
    Store × Response :=
  match request.verb, resource with
  | "OPTIONS", .entry _ none => (store, .page 404)
  | "OPTIONS", _ => (store, .page 200)
  | "HEAD", _ => (store, .page (store.get resource request).status)
  | "POST", _ => store.upload id request
  | "DELETE", .trace id => store.delete id
  | _, _ => (store, store.get resource request)

/-- The answer to a request for a socket at a resource.  No resource has one, and a method that one
of its services does not answer is refused first. -/
def noSocket (resource : Resource) (verb : String) : Response :=
  .page (if resource.fullyAnswers verb then 400 else 405)

/-- The answer to a request whose path names nothing: another path if slashes in a row may count as
one. -/
def elsewhere (path verb : String) (isSocket : Bool) : Response :=
  match Resource.ofMergedPath? path with
  | none => .page 404
  | some resource =>
    if isSocket then noSocket resource verb
    else .page (if resource.answers verb then 308 else 405)

/-- Answer a request.  `name` gives the identifier of the next trace by the number of traces
stored before it. -/
def respond (name : Nat -> String) (store : Store) (request : Request) : Store × Response :=
  match Resource.ofPath? request.target.location with
  | none => (store, elsewhere request.target.location request.verb request.target.isSocket)
  | some resource =>
    if request.target.isSocket then (store, noSocket resource request.verb)
    else if resource.answers request.verb then
      store.respondTo (name store.uploads) resource request
    else (store, .page 405)

def run (name : Nat -> String) (store : Store) : List Request -> Store × List Response
  | [] => (store, [])
  | request :: rest =>
    let (next, response) := store.respond name request
    let (last, responses) := next.run name rest
    (last, response :: responses)

end Store

end TraceView.Web
