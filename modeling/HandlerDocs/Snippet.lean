import HandlerDocs.Config.Basic
import HandlerDocs.Fields.Entry
import HandlerDocs.Request.Extract
import HandlerDocs.Text.LetterCase

/-!
# Snippets

A `SnippetParts` holds the parts of a snippet as source text, each value escaped where it stands
between quotes: the call that performs the request, the settings chained onto it, and the sections
that document parameters and fields. A section without entries is left out.

* `SnippetParts.make` — the parts for a request and its documented fields.
* `SnippetParts.text` — the parts of a snippet, put together.
* `assemble` — the snippet for a request and its documented fields.
-/

namespace HandlerDocs

/-! ### Parts -/

/-- The documented fields of a request and its response. -/
structure PayloadFields where
  /-- The fields of the request body. -/
  requestBody : FieldSet := { mode := .requestBody }
  /-- The fields of the model attribute. -/
  modelAttribute : FieldSet := { mode := .modelAttribute }
  /-- The fields of the response body. -/
  responseBody : FieldSet := { mode := .responseBody }
  deriving DecidableEq, Repr

/-- A call that documents parameters or fields. -/
structure SnippetSection where
  /-- The name of the call. -/
  name : String
  /-- The arguments of the call. -/
  body : String
  deriving DecidableEq, Repr

namespace SnippetSection

/-- What stands between two entries. -/
def separator : String :=
  ",\n\t\t\t\t"

/-- The section with a list of entries; without entries there is none. -/
def ofEntries? (name : String) : List String → Option SnippetSection
  | [] => none
  | entries => some { name, body := separator.intercalate entries }

end SnippetSection

/-- The parts of a snippet. -/
structure SnippetParts where
  /-- The variable that performs the request. -/
  client : String
  /-- The name of the request builder. -/
  method : String
  /-- The arguments of the request builder: the path and the path variables. -/
  target : String
  /-- The settings chained onto the request builder. -/
  callLines : List String
  /-- The identifier of the documentation. -/
  document : String
  /-- The sections in their order. -/
  sections : List SnippetSection
  deriving DecidableEq, Repr

namespace SnippetParts

/-- The entry that documents a parameter. -/
def parameterEntry (p : BoundParameter) : String :=
  parameterCall p.name ""

/-- The arguments of the request builder. -/
def targetOf (request : RequestDescription) : String :=
  request.pathVariables.foldl (fun target p => target ++ ", " ++ p.variableName)
    ("\"" ++ escape request.path ++ "\"")

/-- The setting of a parameter of the query. -/
def queryLine (p : BoundParameter) : String :=
  ".param(\"" ++ escape p.name ++ "\", " ++ p.variableName ++ ")"

/-- The settings of a body. -/
def bodyLines (contentType : String) : Option BoundParameter → List String
  | none => []
  | some body =>
    [".contentType(" ++ contentType ++ ")", ".accept(" ++ contentType ++ ")",
      ".content(" ++ body.variableName ++ ")"]

/-- The setting of a model attribute. -/
def modelLines : Option BoundParameter → List String
  | none => []
  | some model => [".params(" ++ model.variableName ++ ")"]

/-- The settings chained onto the request builder. -/
def callLinesOf (config : Config) (request : RequestDescription) : List String :=
  bodyLines config.contentType request.body ++ modelLines request.modelAttribute ++
    request.queryParams.map queryLine

/-- The identifier of the documentation of a request. -/
def identifierOf (config : Config) (request : RequestDescription) : String :=
  config.documentIdentifier.getD (snakeCase request.methodName)

/-- The sections of a request and its documented fields. -/
def sectionsOf (request : RequestDescription) (fields : PayloadFields) : List SnippetSection :=
  [SnippetSection.ofEntries? "requestParameters"
      (request.queryParams.map parameterEntry ++ fields.modelAttribute.rendered),
    SnippetSection.ofEntries? "pathParameters" (request.pathVariables.map parameterEntry),
    SnippetSection.ofEntries? "requestFields" fields.requestBody.rendered,
    SnippetSection.ofEntries? "responseFields" fields.responseBody.rendered].filterMap id

/-- The parts of the snippet for a request and its documented fields. -/
def make (config : Config) (request : RequestDescription) (fields : PayloadFields) :
    SnippetParts where
  client := config.clientName
  method := request.httpMethod.builder
  target := targetOf request
  callLines := callLinesOf config request
  document := escape (identifierOf config request)
  sections := sectionsOf request fields

end SnippetParts

/-! ### Text -/

namespace SnippetParts

/-- A setting on a line of its own. -/
def lineText (line : String) : String :=
  "\n\t" ++ line

/-- A section, behind the comma that separates it from what stands before it. -/
def sectionText (part : SnippetSection) : String :=
  ",\n\t\t\t" ++ part.name ++ "(\n\t\t\t\t" ++ part.body ++ "\n\t\t\t)"

/-- The text of a snippet. -/
def text (parts : SnippetParts) : String :=
  parts.client ++ ".perform(" ++ parts.method ++ "(" ++ parts.target ++ ")" ++
    String.join (parts.callLines.map lineText) ++ ")" ++
    "\n\t.andDo(print())" ++
    "\n\t.andExpect(status().isOk())" ++
    "\n\t.andDo(" ++
    "\n\t\tdocument(\"" ++ parts.document ++ "\"" ++
    String.join (parts.sections.map sectionText) ++
    "\n\t\t)" ++
    "\n\t);"

end SnippetParts

/-- The snippet for a request and its documented fields. -/
def assemble (config : Config) (request : RequestDescription) (fields : PayloadFields) :
    String :=
  (SnippetParts.make config request fields).text

end HandlerDocs
