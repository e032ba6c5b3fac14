import TraceView.Proofs.Fields.Names
import TraceView.Proofs.Trace.Opened
import TraceView.Web.Store

namespace TraceView.Web

/-!
# What a store keeps

A store is known by its answers.  An upload that is answered with the description of a trace adds
the trace under the identifier in the description, a deletion that succeeds removes the trace that
it names, and every other request leaves the store as it is.  So what is loaded after a run of
requests can be told from the answers alone, and what is served for a trace does not change as long
as the trace is there.

What a request is about is told from its method and its path.  A request for a socket is about
nothing, because no resource has one.
-/

/-! ## Requests and their answers -/

namespace Request

/-- The resource that a request asks for, unless it asks for a socket. -/
def resource? (request : Request) : Option Resource :=
  if request.target.isSocket then none else Resource.ofPath? request.target.location

def Uploads (request : Request) : Prop :=
  request.verb = "POST" ∧ request.resource? = some .traces

def Deletes (request : Request) (id : String) : Prop :=
  request.verb = "DELETE" ∧ request.resource? = some (.trace id)

end Request

/-- The trace that a resource is part of. -/
def Resource.traceId? : Resource -> Option String
  | .trace id => some id
  | .timestamps id => some id
  | .entry id _ => some id
  | _ => none

/-- A request that reads the description, the timestamps or an entry of a trace. -/
def Request.Reads (request : Request) (id : String) : Prop :=
  request.verb = "GET" ∧ request.resource?.bind Resource.traceId? = some id

/-- The identifier of the trace that an answer describes. -/
def Response.traceId? (response : Response) : Option String :=
  match response.body with
  | some (.map fields) =>
    match fields.lookup "trace_id" with
    | some (.string id) => some id
    | _ => none
  | _ => none

/-- A request with its answer. -/
abbrev Exchange := Request × Response

namespace Exchange

/-- An upload that is answered with the description of a trace under an identifier. -/
def Adds (exchange : Exchange) (id : String) : Prop :=
  exchange.1.Uploads ∧ exchange.2.status = 200 ∧ exchange.2.traceId? = some id

/-- A deletion that succeeds. -/
def Removes (exchange : Exchange) (id : String) : Prop :=
  exchange.1.Deletes id ∧ exchange.2.status = 200

/-- Some upload has been given an identifier, and no later deletion of it has succeeded. -/
def Keep (exchanges : List Exchange) (id : String) : Prop :=
  Exists fun before : List Exchange => Exists fun upload : Exchange =>
    Exists fun after : List Exchange =>
      exchanges = before ++ upload :: after ∧ upload.Adds id ∧
        forall later, later ∈ after -> ¬ later.Removes id

theorem Adds.not_removes {exchange : Exchange} {id other : String} (adds : exchange.Adds id) :
    ¬ exchange.Removes other := by
  rintro ⟨⟨verb, _⟩, _⟩
  rw [adds.1.1] at verb
  exact absurd verb (by decide)

theorem Adds.eq {exchange : Exchange} {id other : String} (first : exchange.Adds id)
    (second : exchange.Adds other) : id = other :=
  Option.some.inj (first.2.2.symm.trans second.2.2)

theorem Removes.eq {exchange : Exchange} {id other : String} (first : exchange.Removes id)
    (second : exchange.Removes other) : id = other :=
  Resource.trace.inj (Option.some.inj (first.1.2.symm.trans second.1.2))

theorem keep_cons {exchange : Exchange} {exchanges : List Exchange} {id : String} :
    Keep (exchange :: exchanges) id ↔
      Keep exchanges id ∨
        exchange.Adds id ∧ forall later, later ∈ exchanges -> ¬ later.Removes id := by
  constructor
  · rintro ⟨before, upload, after, same, adds, kept⟩
    cases before with
    | nil =>
        cases same
        exact Or.inr ⟨adds, kept⟩
    | cons first before =>
        cases same
        exact Or.inl ⟨before, upload, after, rfl, adds, kept⟩
  · rintro (⟨before, upload, after, same, adds, kept⟩ | ⟨adds, kept⟩)
    · exact ⟨exchange :: before, upload, after, congrArg (exchange :: ·) same, adds, kept⟩
    · exact ⟨[], exchange, exchanges, rfl, adds, kept⟩

end Exchange

namespace Store

variable {name : Nat -> String}

def loaded (store : Store) : List String :=
  store.traces.map Prod.fst

/-- The requests of a run with their answers. -/
def exchanges (name : Nat -> String) (store : Store) (requests : List Request) : List Exchange :=
  requests.zip (store.run name requests).2

theorem lookup_eq_none_iff {store : Store} {id : String} :
    store.traces.lookup id = none ↔ id ∉ store.loaded := by
  rw [List.lookup_eq_none_iff, loaded, List.mem_map, not_exists]
  apply forall_congr'
  intro field
  rw [not_and, bne_iff_ne]
  exact forall_congr' fun _ => ne_comm

/-! ## One request -/

/-- What a request with its answer can do to a store. -/
inductive Step (name : Nat -> String) (store : Store) (exchange : Exchange) : Store -> Prop where
  /-- Nothing. -/
  | read (noAddition : forall id, ¬ exchange.Adds id) (noRemoval : forall id, ¬ exchange.Removes id) :
      Step name store exchange store
  /-- A trace is added, and the answer is its description. -/
  | add {stored : StoredTrace} (adds : exchange.Adds (name store.uploads))
      (described : exchange.2 = describe (name store.uploads) stored) :
      Step name store exchange
        ⟨Fields.put (name store.uploads) stored store.traces, store.uploads + 1⟩
  /-- A trace is removed. -/
  | remove {id : String} (removes : exchange.Removes id) (present : id ∈ store.loaded) :
      Step name store exchange { store with traces := Fields.erase id store.traces }

theorem respondTo_upload {store : Store} {id : String} {request : Request}
    (upload : request.verb = "POST") :
    store.respondTo id .traces request = store.upload id request := by
  unfold respondTo
  simp only [upload]

theorem respondTo_deletion {store : Store} {id other : String} {request : Request}
    (deletion : request.verb = "DELETE") :
    store.respondTo id (.trace other) request = store.delete other := by
  unfold respondTo
  simp only [deletion]

theorem respondTo_reading {store : Store} {id : String} {resource : Resource} {request : Request}
    (reading : request.verb = "GET") :
    store.respondTo id resource request = (store, store.get resource request) := by
  unfold respondTo
  rw [reading]
  cases resource <;> rfl

/-- A method that is neither that of uploads nor that of deletions leaves the store as it is. -/
theorem respondTo_of_other {store : Store} {id : String} {resource : Resource} {request : Request}
    (noUpload : request.verb ≠ "POST") (noDeletion : request.verb ≠ "DELETE") :
    (store.respondTo id resource request).1 = store := by
  unfold respondTo
  split
  · rfl
  · rfl
  · rfl
  · rename_i verb
    exact absurd verb noUpload
  · rename_i verb
    exact absurd verb noDeletion
  · rfl

theorem respond_of_none {store : Store} {request : Request} (nothing : request.resource? = none) :
    (store.respond name request).1 = store := by
  unfold Request.resource? at nothing
  unfold respond
  cases found : Resource.ofPath? request.target.location with
  | none => rfl
  | some resource =>
      rw [found] at nothing
      cases socket : request.target.isSocket with
      | true => rfl
      | false =>
          rw [socket] at nothing
          cases nothing

theorem respond_of_resource {store : Store} {request : Request} {resource : Resource}
    (about : request.resource? = some resource) :
    store.respond name request =
      if resource.answers request.verb then
        store.respondTo (name store.uploads) resource request
      else (store, .page 405) := by
  unfold Request.resource? at about
  cases socket : request.target.isSocket with
  | true =>
      rw [socket] at about
      cases about
  | false =>
      rw [socket, if_neg Bool.false_ne_true] at about
      unfold respond
      rw [about, socket]
      exact if_neg Bool.false_ne_true

theorem status_loadProblem (error : LoadError) : (loadProblem error).status ≠ 200 := by
  unfold loadProblem
  split
  · exact (by decide : 500 ≠ 200)
  · exact (by decide : 500 ≠ 200)
  · exact (by decide : 400 ≠ 200)

/-- Loading a file either adds a trace, which is described, or fails and adds nothing. -/
theorem addTrace_cases (store : Store) (id : String) (request : Request) (file : Upload) :
    (Exists fun stored : StoredTrace =>
      store.addTrace id request file =
        (⟨Fields.put id stored store.traces, store.uploads + 1⟩, describe id stored)) ∨
    Exists fun answer : Response =>
      answer.status ≠ 200 ∧ store.addTrace id request file = (store, answer) := by
  unfold addTrace
  rcases uploadSettings request with ⟨settings, files⟩
  dsimp only
  cases (loadAlone file.bytes settings files store.uploads).value with
  | error error => exact Or.inr ⟨loadProblem error, status_loadProblem error, rfl⟩
  | ok opened => exact Or.inl ⟨⟨Text.safeFileName file.name, opened⟩, rfl⟩

/-- The same holds of a whole upload, which may also be refused before its file is loaded. -/
theorem upload_cases (store : Store) (id : String) (request : Request) :
    (Exists fun stored : StoredTrace =>
      store.upload id request =
        (⟨Fields.put id stored store.traces, store.uploads + 1⟩, describe id stored)) ∨
    Exists fun answer : Response =>
      answer.status ≠ 200 ∧ store.upload id request = (store, answer) := by
  unfold upload
  cases request.isTooLarge with
  | true => exact Or.inr ⟨.page 413, by decide, rfl⟩
  | false =>
      cases request.file? "file" with
      | none => exact Or.inr ⟨.problem 400 "No file provided", by decide, rfl⟩
      | some file =>
          dsimp only
          split
          · exact Or.inr ⟨.problem 400 "No file selected", by decide, rfl⟩
          · split
            · exact Or.inr ⟨_, by decide, rfl⟩
            · split
              · exact addTrace_cases store id request file
              · exact Or.inr ⟨.page 500, by decide, rfl⟩

theorem answers_post {resource : Resource} (answered : resource.answers "POST" = true) :
    resource = .traces := by
  cases resource with
  | traces => rfl
  | _ => cases answered

theorem answers_delete {resource : Resource} (answered : resource.answers "DELETE" = true) :
    Exists fun id : String => resource = .trace id := by
  cases resource with
  | trace id => exact ⟨id, rfl⟩
  | _ => cases answered

section

variable {store : Store} {request : Request} {resource : Resource}

/-- A request that adds and removes nothing, because of what it is, leaves the store as it is. -/
theorem step_of_unchanged (result : Store × Response) (same : result.1 = store)
    (noUpload : request.Uploads -> result.2.status ≠ 200)
    (noDeletion : forall id, request.Deletes id -> result.2.status ≠ 200) :
    Step name store (request, result.2) result.1 := by
  rw [same]
  exact Step.read (fun id adds => noUpload adds.1 adds.2.1)
    fun id removes => noDeletion id removes.1 removes.2

theorem step_of_upload (about : request.resource? = some resource)
    (upload : request.verb = "POST") (answered : resource.answers request.verb = true) :
    Step name store (request, (store.respondTo (name store.uploads) resource request).2)
      (store.respondTo (name store.uploads) resource request).1 := by
  rw [upload] at answered
  rw [answers_post answered] at about ⊢
  rw [respondTo_upload upload]
  rcases upload_cases store (name store.uploads) request with
    ⟨stored, same⟩ | ⟨answer, problem, same⟩
  · rw [same]
    exact Step.add ⟨⟨upload, about⟩, rfl, rfl⟩ rfl
  · rw [same]
    exact step_of_unchanged (store, answer) rfl (fun _ => problem) fun _ _ => problem

theorem step_of_deletion (about : request.resource? = some resource)
    (deletion : request.verb = "DELETE") (answered : resource.answers request.verb = true) :
    Step name store (request, (store.respondTo (name store.uploads) resource request).2)
      (store.respondTo (name store.uploads) resource request).1 := by
  rw [deletion] at answered
  rcases answers_delete answered with ⟨id, named⟩
  rw [named] at about ⊢
  rw [respondTo_deletion deletion, delete]
  cases found : store.traces.lookup id with
  | none =>
      have problem : notFound.status ≠ 200 := by decide
      exact step_of_unchanged (store, notFound) rfl (fun _ => problem) fun _ _ => problem
  | some stored =>
      exact Step.remove ⟨⟨deletion, about⟩, rfl⟩
        (List.mem_map.mpr ⟨(id, stored), Fields.mem_of_lookup found, rfl⟩)

end

/-- What a request can do to a store, as its answer tells. -/
theorem respond_step (name : Nat -> String) (store : Store) (request : Request) :
    Step name store (request, (store.respond name request).2) (store.respond name request).1 := by
  cases about : request.resource? with
  | none =>
      apply step_of_unchanged _ (respond_of_none about)
      · intro uploads
        cases about.symm.trans uploads.2
      · intro id deletes
        cases about.symm.trans deletes.2
  | some resource =>
      rw [respond_of_resource about]
      by_cases answered : resource.answers request.verb = true
      · rw [if_pos answered]
        by_cases upload : request.verb = "POST"
        · exact step_of_upload about upload answered
        · by_cases deletion : request.verb = "DELETE"
          · exact step_of_deletion about deletion answered
          · exact step_of_unchanged _ (respondTo_of_other upload deletion)
              (fun uploads => absurd uploads.1 upload)
              fun id deletes => absurd deletes.1 deletion
      · rw [if_neg answered]
        have problem : (Response.page 405).status ≠ 200 := by decide
        exact step_of_unchanged (store, .page 405) rfl (fun _ => problem)
          fun _ _ => problem

namespace Step

variable {store next : Store} {exchange : Exchange} {id : String} {stored : StoredTrace}

/-- After a request those traces are loaded that it adds, and those that were loaded before and that
it does not remove. -/
theorem mem_loaded_iff (step : Step name store exchange next) :
    id ∈ next.loaded ↔ exchange.Adds id ∨ (id ∈ store.loaded ∧ ¬ exchange.Removes id) := by
  cases step with
  | read noAddition noRemoval =>
      simp only [noAddition id, noRemoval id, false_or, not_false_eq_true, and_true]
  | @add stored adds described =>
      have added : exchange.Adds id ↔ id = name store.uploads := by
        constructor
        · exact fun others => others.eq adds
        · rintro rfl
          exact adds
      simp only [loaded, Fields.mem_names_put, added, adds.not_removes, not_false_eq_true, and_true]
  | @remove other removes present =>
      have removed : exchange.Removes id ↔ id = other := by
        constructor
        · exact fun others => others.eq removes
        · rintro rfl
          exact removes
      have nothing : ¬ exchange.Adds id := fun adds => adds.not_removes removes
      simp only [nothing, false_or, removed, loaded, List.mem_map, Fields.erase, List.mem_filter]
      constructor
      · rintro ⟨field, ⟨listed, different⟩, rfl⟩
        exact ⟨⟨field, listed, rfl⟩, bne_iff_ne.mp different⟩
      · rintro ⟨⟨field, listed, rfl⟩, different⟩
        exact ⟨field, ⟨listed, bne_iff_ne.mpr different⟩, rfl⟩

/-- A request that is no successful upload and no successful deletion changes nothing. -/
theorem unchanged {request : Request} {response : Response}
    (step : Step name store (request, response) next)
    (quiet : ¬ ((request.Uploads ∨ Exists fun id : String => request.Deletes id) ∧
      response.status = 200)) : next = store := by
  cases step with
  | read noAddition noRemoval => rfl
  | add adds described => exact absurd ⟨Or.inl adds.1, adds.2.1⟩ quiet
  | remove removes present => exact absurd ⟨Or.inr ⟨_, removes.1⟩, removes.2⟩ quiet

/-- A trace stays what it is until its identifier is given again or removed. -/
theorem lookup (step : Step name store exchange next)
    (found : store.traces.lookup id = some stored) (only : ¬ exchange.Adds id)
    (kept : ¬ exchange.Removes id) : next.traces.lookup id = some stored := by
  cases step with
  | read noAddition noRemoval => exact found
  | add adds described =>
      have different : id ≠ name store.uploads := by
        rintro rfl
        exact only adds
      rw [Fields.lookup_put_of_ne different, found]
  | @remove other removes present =>
      have different : id ≠ other := by
        rintro rfl
        exact kept removes
      rw [Fields.lookup_erase_of_ne different, found]

theorem uploads_le (step : Step name store exchange next) : store.uploads ≤ next.uploads := by
  cases step with
  | read noAddition noRemoval => exact Nat.le_refl _
  | add adds described => exact Nat.le_succ _
  | remove removes present => exact Nat.le_refl _

end Step

/-! ## Identifiers -/

/-- The first identifiers that are given are all different. -/
def Separate (name : Nat -> String) (count : Nat) : Prop :=
  forall first second, first < count -> second < count -> name first = name second ->
    first = second

/-- The invariant of a store: its identifiers have been given, each to one trace. -/
structure Sound (name : Nat -> String) (store : Store) : Prop where
  given : forall id, id ∈ store.loaded ->
    Exists fun number : Nat => number < store.uploads ∧ name number = id
  distinct : Fields.Distinct store.traces

theorem sound_empty (name : Nat -> String) : Sound name empty where
  given := fun _ impossible => absurd impossible List.not_mem_nil
  distinct := List.nodup_nil

/-- The next identifier is not in use. -/
theorem Sound.fresh {store : Store} (sound : Sound name store) {count : Nat}
    (separate : Separate name count) (later : store.uploads < count) :
    name store.uploads ∉ store.loaded := by
  intro used
  rcases sound.given _ used with ⟨number, earlier, same⟩
  exact absurd (separate number store.uploads (Nat.lt_trans earlier later) later same)
    (Nat.ne_of_lt earlier)

theorem Sound.step {store next : Store} {exchange : Exchange} (sound : Sound name store)
    (step : Step name store exchange next) : Sound name next := by
  cases step with
  | read noAddition noRemoval => exact sound
  | add adds described =>
      constructor
      · intro id listed
        rcases Fields.mem_names_put.mp listed with last | before
        · exact ⟨store.uploads, Nat.lt_succ_self _, last.symm⟩
        · rcases sound.given id before with ⟨number, earlier, same⟩
          exact ⟨number, Nat.lt_succ_of_lt earlier, same⟩
      · exact sound.distinct.put _ _
  | remove removes present =>
      exact ⟨fun id listed => sound.given id ((List.filter_sublist.map Prod.fst).subset listed),
        sound.distinct.erase _⟩

/-- An upload adds the trace that its answer describes. -/
theorem Step.lookup_of_adds {store next : Store} {request : Request} {response : Response}
    (step : Step name store (request, response) next) {id : String}
    (adds : Exchange.Adds (request, response) id) :
    Exists fun stored : StoredTrace =>
      next.traces.lookup id = some stored ∧ response = describe id stored := by
  cases step with
  | read noAddition noRemoval => exact absurd adds (noAddition id)
  | @add stored others described =>
      rw [adds.eq others]
      exact ⟨stored, Fields.lookup_put_self _ _ _, described⟩
  | remove removes present => exact absurd removes adds.not_removes

/-- No identifier is given again while its trace is loaded. -/
theorem Sound.not_adds {store next : Store} {exchange : Exchange} (sound : Sound name store)
    (step : Step name store exchange next) {count : Nat} (separate : Separate name count)
    (later : next.uploads ≤ count) {id : String} (listed : id ∈ store.loaded) :
    ¬ exchange.Adds id := by
  intro adds
  cases step with
  | read noAddition noRemoval => exact noAddition id adds
  | add others described =>
      rw [adds.eq others] at listed
      exact sound.fresh separate later listed
  | remove removes present => exact adds.not_removes removes

/-! ## Runs -/

theorem run_cons (name : Nat -> String) (store : Store) (request : Request)
    (rest : List Request) :
    store.run name (request :: rest) =
      (((store.respond name request).1.run name rest).1,
        (store.respond name request).2 :: ((store.respond name request).1.run name rest).2) := by
  rw [run]

theorem run_append (name : Nat -> String) (store : Store) (first second : List Request) :
    (store.run name (first ++ second)).1 = ((store.run name first).1.run name second).1 := by
  induction first generalizing store with
  | nil => rfl
  | cons request rest inductionHypothesis =>
      rw [List.cons_append, run_cons, run_cons, inductionHypothesis]

theorem exchanges_cons (name : Nat -> String) (store : Store) (request : Request)
    (rest : List Request) :
    exchanges name store (request :: rest) =
      (request, (store.respond name request).2) ::
        exchanges name (store.respond name request).1 rest := by
  rw [exchanges, run_cons, List.zip_cons_cons, exchanges]

/-- After a run those traces are loaded that the run keeps, and those that were loaded before and
that it does not remove. -/
theorem mem_loaded_run (store : Store) (requests : List Request) (id : String) :
    id ∈ (store.run name requests).1.loaded ↔
      Exchange.Keep (exchanges name store requests) id ∨
        (id ∈ store.loaded ∧
          forall exchange, exchange ∈ exchanges name store requests -> ¬ exchange.Removes id) := by
  induction requests generalizing store with
  | nil =>
      have nothing : ¬ Exchange.Keep [] id := by
        rintro ⟨before, upload, after, same, _⟩
        exact List.cons_ne_nil _ _ (List.append_eq_nil_iff.mp same.symm).2
      simp only [run, exchanges, List.zip_nil_left, nothing, List.not_mem_nil, false_implies,
        implies_true, and_true, false_or]
  | cons request rest inductionHypothesis =>
      rw [run_cons, inductionHypothesis, (respond_step name store request).mem_loaded_iff,
        exchanges_cons, Exchange.keep_cons, List.forall_mem_cons]
      tauto

theorem uploads_le_run (name : Nat -> String) (store : Store) (requests : List Request) :
    store.uploads ≤ (store.run name requests).1.uploads := by
  induction requests generalizing store with
  | nil => exact Nat.le_refl _
  | cons request rest inductionHypothesis =>
      rw [run_cons]
      exact Nat.le_trans (respond_step name store request).uploads_le (inductionHypothesis _)

theorem Sound.run {store : Store} (sound : Sound name store) (requests : List Request) :
    Sound name (store.run name requests).1 := by
  induction requests generalizing store with
  | nil => exact sound
  | cons request rest inductionHypothesis =>
      rw [run_cons]
      exact inductionHypothesis (sound.step (respond_step name store request))

/-- A trace stays what it is as long as a run does not remove it. -/
theorem Sound.lookup_run {store : Store} (sound : Sound name store) {requests : List Request}
    (separate : Separate name (store.run name requests).1.uploads) {id : String}
    {stored : StoredTrace} (found : store.traces.lookup id = some stored)
    (kept : forall exchange, exchange ∈ exchanges name store requests -> ¬ exchange.Removes id) :
    (store.run name requests).1.traces.lookup id = some stored := by
  induction requests generalizing store with
  | nil => exact found
  | cons request rest inductionHypothesis =>
      rw [exchanges_cons, List.forall_mem_cons] at kept
      rw [run_cons] at separate ⊢
      have step := respond_step name store request
      have listed : id ∈ store.loaded :=
        List.mem_map.mpr ⟨(id, stored), Fields.mem_of_lookup found, rfl⟩
      have only := sound.not_adds step separate (uploads_le_run name _ rest) listed
      exact inductionHypothesis (sound.step step) separate (step.lookup found only kept.1) kept.2

/-! ## Reading -/

/-- What is read of a trace is read from its resource. -/
theorem respond_of_reads {request : Request} {id : String} (reads : request.Reads id) :
    Exists fun resource : Resource => request.resource? = some resource ∧
      resource.traceId? = some id ∧
      forall store : Store, (store.respond name request).2 = store.get resource request := by
  rcases reads with ⟨verb, asked⟩
  rcases Option.bind_eq_some_iff.mp asked with ⟨resource, about, partOf⟩
  refine ⟨resource, about, partOf, ?_⟩
  have answered : resource.answers request.verb = true := by
    rw [verb]
    cases resource with
    | traces => cases partOf
    | _ => rfl
  intro store
  rw [respond_of_resource about, if_pos answered, respondTo_reading verb]

/-- What is read of a trace depends on nothing else in the store. -/
theorem get_congr {store other : Store} {resource : Resource} {id : String}
    (partOf : resource.traceId? = some id)
    (same : store.traces.lookup id = other.traces.lookup id) (request : Request) :
    store.get resource request = other.get resource request := by
  cases resource with
  | traces => cases partOf
  | file => cases partOf
  | trace own =>
      cases partOf
      rw [get, get, same]
  | timestamps own =>
      cases partOf
      rw [get, get, onDomain, onDomain, same]
  | entry own index =>
      cases partOf
      cases index with
      | none => rfl
      | some number => rw [get, get, onDomain, onDomain, same]

/-- Of a trace that is not loaded nothing can be read, on whatever clock. -/
theorem get_of_missing {store : Store} {resource : Resource} {id : String}
    (partOf : resource.traceId? = some id) (missing : store.traces.lookup id = none)
    (request : Request) : (store.get resource request).status = 404 := by
  cases resource with
  | traces => cases partOf
  | file => cases partOf
  | trace own =>
      cases partOf
      rw [get, missing]
      rfl
  | timestamps own =>
      cases partOf
      rw [get, onDomain, missing]
      rfl
  | entry own index =>
      cases partOf
      cases index with
      | none => rfl
      | some number =>
          rw [get, onDomain, missing]
          rfl

/-! ## All of it -/

/-- The store after a run of requests to a store without traces. -/
def after (name : Nat -> String) (requests : List Request) : Store :=
  (empty.run name requests).1

theorem after_append (name : Nat -> String) (before rest : List Request) :
    after name (before ++ rest) = ((after name before).run name rest).1 :=
  run_append name empty before rest

theorem after_concat (name : Nat -> String) (before : List Request) (request : Request) :
    after name (before ++ [request]) = ((after name before).respond name request).1 := by
  rw [after_append, run_cons, run]

theorem after_split (name : Nat -> String) (before rest : List Request) (request : Request) :
    after name (before ++ request :: rest) =
      ((after name (before ++ [request])).run name rest).1 := by
  rw [← after_append, List.append_assoc, List.singleton_append]

theorem sound_after (name : Nat -> String) (requests : List Request) :
    Sound name (after name requests) :=
  (sound_empty name).run requests

/-- The trace that an upload in a run adds. -/
theorem after_adds {before : List Request} {upload : Request} {id : String}
    (adds : Exchange.Adds (upload, ((after name before).respond name upload).2) id) :
    Exists fun stored : StoredTrace =>
      (after name (before ++ [upload])).traces.lookup id = some stored ∧
        ((after name before).respond name upload).2 = describe id stored := by
  rw [after_concat]
  exact (respond_step name (after name before) upload).lookup_of_adds adds

/-- The store after any run of requests, if all identifiers that the run gives are different.

Exactly those traces are loaded whose upload was answered with their identifier and that no later
deletion has removed, each under an identifier of its own.  A request that is no successful upload
and no successful deletion leaves the store as it is.  As long as a trace is not deleted, whatever
is read of it is answered as it was right after the upload, and its description is the answer to the
upload.  What is asked of a trace that is not loaded is not found, on whatever clock. -/
theorem run_keeps {requests : List Request}
    (separate : Separate name (after name requests).uploads) :
    Fields.Distinct (after name requests).traces ∧
      (forall id, id ∈ (after name requests).loaded ↔
        Exchange.Keep (exchanges name empty requests) id) ∧
      (forall before request rest, requests = before ++ request :: rest ->
        ¬ ((request.Uploads ∨ Exists fun id : String => request.Deletes id) ∧
          ((after name before).respond name request).2.status = 200) ->
        after name (before ++ [request]) = after name before) ∧
      (forall before upload rest id, requests = before ++ upload :: rest ->
        Exchange.Adds (upload, ((after name before).respond name upload).2) id ->
        (forall later, later ∈ exchanges name (after name (before ++ [upload])) rest ->
          ¬ later.Removes id) ->
        forall request : Request, request.Reads id ->
          ((after name requests).respond name request).2 =
              ((after name (before ++ [upload])).respond name request).2 ∧
            (request.resource? = some (.trace id) ->
              ((after name requests).respond name request).2 =
                ((after name before).respond name upload).2)) ∧
      forall id, id ∉ (after name requests).loaded ->
        forall request : Request, request.Reads id ∨ request.Deletes id ->
          ((after name requests).respond name request).2.status = 404 := by
  refine ⟨(sound_after name requests).distinct, ?_, ?_, ?_, ?_⟩
  · intro id
    rw [after, mem_loaded_run]
    simp only [loaded, empty, List.map_nil, List.not_mem_nil, false_and, or_false]
  · intro before request rest split quiet
    rw [after_concat]
    exact (respond_step name (after name before) request).unchanged quiet
  · intro before upload rest id split adds kept request reads
    subst split
    rcases after_adds adds with ⟨stored, found, described⟩
    have still : (after name (before ++ upload :: rest)).traces.lookup id = some stored := by
      rw [after_split] at separate ⊢
      exact (sound_after name _).lookup_run separate found kept
    rcases respond_of_reads reads with ⟨resource, about, partOf, answer⟩
    rw [answer, answer]
    refine ⟨get_congr partOf (still.trans found.symm) request, ?_⟩
    intro description
    cases about.symm.trans description
    rw [described, get, still]
  · intro id missing request asked
    have none := lookup_eq_none_iff.mpr missing
    rcases asked with reads | ⟨deletion, about⟩
    · rcases respond_of_reads reads with ⟨resource, about, partOf, answer⟩
      rw [answer]
      exact get_of_missing partOf none request
    · have answered : (Resource.trace id).answers request.verb = true := by
        rw [deletion]
        rfl
      rw [respond_of_resource about, if_pos answered, respondTo_deletion deletion, delete, none]
      rfl

/-! ## A run of one upload -/

/-- Identifiers that are made of one letter. -/
def labels (number : Nat) : String :=
  String.ofList (List.replicate (number + 1) 't')

theorem separate_labels (count : Nat) : Separate labels count := by
  intro first second _ _ same
  have lengths := congrArg List.length (String.ofList_injective same)
  rw [List.length_replicate, List.length_replicate] at lengths
  exact Nat.succ.inj lengths

def playedUpload : Request :=
  ⟨"POST", ⟨"/api/traces".toList, [], false⟩, [⟨some "file", some "a.json", playedText⟩]⟩

def playedStored : StoredTrace :=
  ⟨"a.json", ⟨Trace.playedTrace, .transition⟩⟩

theorem respond_playedUpload : empty.respond labels playedUpload =
    (⟨[("t", playedStored)], 1⟩, describe "t" playedStored) := by
  have about : playedUpload.resource? = some .traces := by decide +kernel
  have upload : playedUpload.verb = "POST" := by decide +kernel
  have small : playedUpload.isTooLarge = false := by decide +kernel
  have found : playedUpload.file? "file" = some ⟨"a.json", playedText⟩ := rfl
  have storable : ((⟨"a.json", playedText⟩ : Upload) :: (config? playedUpload).toList).all canStore =
      true := by decide +kernel
  have plain : config? playedUpload = none := rfl
  have applies : (((playedUpload.field? "apply_operations").getD "true").toLower == "true") =
      true := by decide +kernel
  have settings : uploadSettings playedUpload = (.standard, .nowhere) := by
    rw [uploadSettings, plain, applies]
    rfl
  have loads : (loadAlone playedText .standard .nowhere 0).value =
      .ok ⟨Trace.playedTrace, .transition⟩ := by
    simp only [loadAlone, Noted.value_andThen, Noted.value_quiet, Trace.load_playedText]
    rfl
  have nonempty : "a.json".isEmpty = false := by decide +kernel
  have document : allowedFile "a.json" = true := by decide +kernel
  have safe : Text.safeFileName "a.json" = "a.json" := by decide +kernel
  have first : labels 0 = "t" := rfl
  rw [respond_of_resource about, if_pos (by rw [upload]; rfl), respondTo_upload upload, Store.upload,
    small, found]
  simp only [nonempty, document, storable, Bool.false_eq_true, if_false, Bool.not_true, if_true,
    addTrace, settings, empty, loads, safe, first, Fields.put]
  rfl

/-- The uploaded trace is the only one that is loaded, and reading its description gives the answer
to the upload. -/
theorem playedUpload_kept :
    "t" ∈ (after labels [playedUpload]).loaded ∧ "tt" ∉ (after labels [playedUpload]).loaded ∧
      (forall request : Request, request.Reads "t" -> request.resource? = some (.trace "t") ->
        ((after labels [playedUpload]).respond labels request).2 = describe "t" playedStored) ∧
      forall request : Request, request.Reads "tt" ->
        ((after labels [playedUpload]).respond labels request).2.status = 404 := by
  have state : after labels [playedUpload] = ⟨[("t", playedStored)], 1⟩ := by
    rw [after, run_cons, respond_playedUpload, run]
  rcases @run_keeps labels [playedUpload] (separate_labels _) with
    ⟨_, kept, _, reading, missing⟩
  have adds : Exchange.Adds (playedUpload, (empty.respond labels playedUpload).2) "t" := by
    rw [respond_playedUpload]
    exact ⟨⟨by decide +kernel, by decide +kernel⟩, rfl, rfl⟩
  have other : "tt" ∉ (after labels [playedUpload]).loaded := by
    rw [state]
    decide
  refine ⟨(kept "t").mpr ?_, other, ?_, ?_⟩
  · rw [exchanges_cons]
    exact ⟨[], _, [], rfl, adds, fun later impossible => absurd impossible List.not_mem_nil⟩
  · intro request reads description
    have answer := (reading [] playedUpload [] "t" rfl adds
      (fun later impossible => absurd impossible List.not_mem_nil) request reads).2 description
    rw [answer]
    exact congrArg Prod.snd respond_playedUpload
  · intro request reads
    exact missing "tt" other request (Or.inl reads)

end Store

end TraceView.Web
