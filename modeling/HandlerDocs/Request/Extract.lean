import HandlerDocs.Config.Basic
import HandlerDocs.Fields.Entry
import HandlerDocs.Program.Handler
import HandlerDocs.Request.Mapping

/-!
# The request of a handler

A `RequestDescription` says which request a handler answers, which of its parameters feed the
request, and which payload it answers with.

Marker annotations say how a parameter takes part in a request; the first marker of a parameter
decides its role. The parameters are assigned to the places of the request one after the other. What
does not fit is reported: a parameter with several markers, a second body or model attribute, and a
path with another number of placeholders than there are path variables.

The generic types that only wrap a response are peeled off the return type, layer by layer. A
wrapper without arguments, a type that stands for "no payload" and a wildcard end the search without
a payload.

* `Marker.ofName?` — the marker with a reference name.
* `Parameter.markers`, `Parameter.role` — the markers of a parameter, and the role that they give.
* `Config.payload?`, `Config.unwrapResponse` — the payload of a type, and of a return type.
* `Assignment.add` — assigns one parameter.
* `Handler.describe?` — the request of a handler, with the diagnostics.
-/

namespace HandlerDocs

/-! ### Parameter roles -/

/-- How a parameter takes part in a request. -/
inductive ParameterRole
  | pathVariable
  | queryParam
  | body
  | modelAttribute
  | unmarked
  deriving DecidableEq, Repr

/-- A role in words. -/
def ParameterRole.description : ParameterRole → String
  | pathVariable => "path variable"
  | queryParam => "query parameter"
  | body => "request body"
  | modelAttribute => "model attribute"
  | unmarked => "unmarked parameter"

/-- The annotations that mark the role of a parameter. -/
inductive Marker
  | pathVariable
  | requestParam
  | requestBody
  | modelAttribute
  deriving DecidableEq, Repr

namespace Marker

/-- All markers. -/
def all : List Marker :=
  [pathVariable, requestParam, requestBody, modelAttribute]

/-- The reference name of a marker. -/
def name : Marker → String
  | pathVariable => "PathVariable"
  | requestParam => "RequestParam"
  | requestBody => "RequestBody"
  | modelAttribute => "ModelAttribute"

/-- The marker with a reference name. -/
def ofName? (name : String) : Option Marker :=
  all.find? (·.name == name)

/-- Every marker is found by its name. -/
@[simp]
theorem ofName?_name (m : Marker) : ofName? m.name = some m := by
  cases m <;> decide

/-- The role that a marker gives. -/
def role : Marker → ParameterRole
  | pathVariable => .pathVariable
  | requestParam => .queryParam
  | requestBody => .body
  | modelAttribute => .modelAttribute

end Marker

namespace Parameter

/-- The markers among the annotations of a parameter, each with its annotation. -/
def markers (p : Parameter) : List (Marker × Annotation) :=
  p.annotations.filterMap fun a => (Marker.ofName? a.referenceName).map (·, a)

/-- The role that the first marker of a parameter gives. -/
def role (p : Parameter) : ParameterRole :=
  match p.annotations.findSome? fun a => Marker.ofName? a.referenceName with
  | some marker => marker.role
  | none => .unmarked

end Parameter

/-! ### Descriptions of requests -/

/-- A parameter that feeds a request. -/
structure BoundParameter where
  /-- The name under which the request carries the value. -/
  name : String
  /-- The variable that holds the value. -/
  variableName : String
  /-- The declared type. -/
  type : TypeRef
  /-- The role of the parameter. -/
  role : ParameterRole
  deriving DecidableEq, Repr

/-- The payload of a response without its generic wrappers. -/
structure ResponsePayload where
  /-- The type of the payload. -/
  type : TypeRef
  /-- Whether the response is a page of such payloads. -/
  paginated : Bool
  deriving DecidableEq, Repr

/-- The places of a request that parameters fill. -/
structure RequestSlots where
  /-- The parameters that fill placeholders of the path. -/
  pathVariables : List BoundParameter := []
  /-- The parameters of the query. -/
  queryParams : List BoundParameter := []
  /-- The parameter that is the body. -/
  body : Option BoundParameter := none
  /-- The parameter whose fields are parameters of the query. -/
  modelAttribute : Option BoundParameter := none
  deriving DecidableEq, Repr

/-- The request that a handler answers. -/
structure RequestDescription extends RequestSlots where
  /-- The name of the handler. -/
  methodName : String
  /-- The method of the request. -/
  httpMethod : HttpMethod
  /-- The path of the request. -/
  path : String
  /-- The payload of the response, if there is one. -/
  response : Option ResponsePayload := none
  deriving DecidableEq, Repr

end HandlerDocs

namespace HandlerDocs.Config

/-! ### Response payloads -/

/-- Whether a class name is that of a wrapper. -/
def isWrapper (config : Config) (name : String) : Bool :=
  config.isPageWrapper name || config.isResponseWrapper name

/-- The payload of a type: what is left without its wrappers. It is a page of payloads when one of
the wrappers is that of a page. -/
def payload? (config : Config) : TypeRef → Option ResponsePayload
  | .wildcard => none
  | .named name (a :: as) =>
    if (TypeRef.named name (a :: as)).isVoid then none
    else if config.isWrapper name then
      (config.payload? a).map fun payload =>
        { payload with paginated := config.isPageWrapper name || payload.paginated }
    else some ⟨.named name (a :: as), false⟩
  | .named name [] =>
    if (TypeRef.named name []).isVoid || config.isWrapper name then none
    else some ⟨.named name [], false⟩
  | t => if t.isVoid then none else some ⟨t, false⟩

/-- The payload of a return type. -/
def unwrapResponse (config : Config) (returnType : Option TypeRef) : Option ResponsePayload :=
  returnType.bind config.payload?

end HandlerDocs.Config

namespace HandlerDocs

/-! ### Assigning parameters -/

/-- The name under which a request carries the value of a parameter: the value of its marker, else
its name attribute, else the name of the parameter. -/
def Parameter.boundName (p : Parameter) (marker : Annotation) : String :=
  match (marker.attribute? "value").or (marker.attribute? "name") with
  | none => p.name
  | some raw =>
    let name := Attribute.firstLiteral raw
    if name = "" then p.name else name

/-- A parameter that is bound under a name. -/
def Parameter.bind (p : Parameter) (name : String) (role : ParameterRole) : BoundParameter where
  name
  variableName := p.name
  type := p.type
  role

/-- The places that were filled so far, and what was reported. -/
structure Assignment where
  /-- The places of the request. -/
  slots : RequestSlots := {}
  /-- The reports, oldest first. -/
  diagnostics : List Diagnostic := []

namespace Assignment

/-- Adds a report. -/
def report (a : Assignment) (d : Diagnostic) : Assignment :=
  { a with diagnostics := a.diagnostics ++ [d] }

/-- Reports that a parameter has other markers besides the first. -/
def reportAmbiguity (a : Assignment) (p : Parameter) (kept : Marker)
    (ignored : List (Marker × Annotation)) : Assignment :=
  match ignored with
  | [] => a
  | _ => a.report (.ambiguousParameterRole p.name kept.name (ignored.map (·.1.name)))

/-- Puts a parameter into the place for its role. A place that holds one parameter keeps the
first. -/
def place (a : Assignment) (p : Parameter) (marker : Marker) (source : Annotation) : Assignment :=
  match marker with
  | .pathVariable =>
    let bound := p.bind (p.boundName source) .pathVariable
    { a with slots := { a.slots with pathVariables := a.slots.pathVariables ++ [bound] } }
  | .requestParam =>
    let bound := p.bind (p.boundName source) .queryParam
    { a with slots := { a.slots with queryParams := a.slots.queryParams ++ [bound] } }
  | .requestBody =>
    match a.slots.body with
    | none => { a with slots := { a.slots with body := some (p.bind p.name .body) } }
    | some _ => a.report (.duplicateParameterRole p.name ParameterRole.body.description)
  | .modelAttribute =>
    match a.slots.modelAttribute with
    | none =>
      { a with slots := { a.slots with modelAttribute := some (p.bind p.name .modelAttribute) } }
    | some _ => a.report (.duplicateParameterRole p.name ParameterRole.modelAttribute.description)

/-- Assigns one more parameter by its first marker. -/
def add (a : Assignment) (p : Parameter) : Assignment :=
  match p.markers with
  | [] => a
  | (marker, source) :: others => (a.reportAmbiguity p marker others).place p marker source

/-- The assignment of a list of parameters. -/
def ofParameters (parameters : List Parameter) : Assignment :=
  parameters.foldl add {}

end Assignment

/-- The report that a path has another number of placeholders than there are path variables. -/
def placeholderMismatch (path : String) (pathVariables : List BoundParameter) : List Diagnostic :=
  let placeholders := Path.placeholderCount path
  if placeholders = pathVariables.length then []
  else [.pathVariableMismatch path placeholders pathVariables.length]

/-- The request that a handler answers, with what there is to report. A handler without a mapping
has none. -/
def Handler.describe? (config : Config) (h : Handler) :
    Option (RequestDescription × List Diagnostic) :=
  h.mapping?.map fun (method, source) =>
    let path := h.requestPath source
    let assignment := Assignment.ofParameters h.parameters
    let request : RequestDescription :=
      { assignment.slots with
        methodName := h.name
        httpMethod := method
        path
        response := config.unwrapResponse h.returnType }
    (request,
      assignment.diagnostics ++ placeholderMismatch path request.pathVariables)

end HandlerDocs
