import HandlerDocs.Category
import HandlerDocs.Text.StringLiteral

/-!
# Entries and diagnostics

A `FieldEntry` documents one leaf field by the path that leads to it. A `FieldSet` holds the entries
of one payload and knows which payload it is, which decides how its entries are written.

Documentation is permissive: what cannot be documented is left out, and a `Diagnostic` says so.

* `Diagnostic.message` — the wording of a diagnostic.
* `FieldEntry.render` — an entry as a call in a snippet.
-/

namespace HandlerDocs

/-! ### Diagnostics -/

/-- Something that was left out of the documentation, or that looks wrong. -/
inductive Diagnostic
  /-- The type of a field or payload has no known class. -/
  | unresolvedType (path typeName : String)
  /-- A collection type does not have exactly one argument. -/
  | malformedCollection (path typeName : String) (arguments : Nat)
  /-- A class is a field of itself, perhaps through others. -/
  | cyclicReference (path className : String)
  /-- A class lies too deep. -/
  | depthLimitExceeded (path className : String) (maxDepth : Nat)
  /-- A payload has no fields. -/
  | scalarPayload (typeName : String)
  /-- A parameter has several role markers. -/
  | ambiguousParameterRole (parameter kept : String) (ignored : List String)
  /-- A role that is held once is held already. -/
  | duplicateParameterRole (parameter role : String)
  /-- A path has not as many placeholders as there are path variables. -/
  | pathVariableMismatch (path : String) (placeholders pathVariables : Nat)
  deriving DecidableEq, Repr

namespace Diagnostic

/-- The wording of a diagnostic. -/
def message : Diagnostic → String
  | unresolvedType path typeName =>
    "cannot resolve type '" ++ typeName ++ "' at '" ++ path ++ "', skipped"
  | malformedCollection path typeName arguments =>
    "collection '" ++ typeName ++ "' at '" ++ path ++ "' has " ++ toString arguments ++
      " type arguments, expected 1"
  | cyclicReference path className =>
    "cyclic reference to '" ++ className ++ "' at '" ++ path ++ "', not expanded"
  | depthLimitExceeded path className maxDepth =>
    "'" ++ className ++ "' at '" ++ path ++ "' exceeds the nesting limit of " ++ toString maxDepth
  | scalarPayload typeName => "payload type '" ++ typeName ++ "' has no fields to document"
  | ambiguousParameterRole parameter kept ignored =>
    "parameter '" ++ parameter ++ "' has several role markers; using " ++ kept ++ ", ignoring " ++
      ", ".intercalate ignored
  | duplicateParameterRole parameter role =>
    "parameter '" ++ parameter ++ "' is a second " ++ role ++ ", ignored"
  | pathVariableMismatch path placeholders pathVariables =>
    "path '" ++ path ++ "' has " ++ toString placeholders ++ " placeholders but " ++
      toString pathVariables ++ " path variables"

end Diagnostic

/-! ### Entries -/

/-- The payloads that have fields. -/
inductive PayloadMode
  | requestBody
  | responseBody
  | modelAttribute
  deriving DecidableEq, Repr

/-- One documented leaf field. -/
structure FieldEntry where
  /-- The path of the field. -/
  path : String
  /-- How the value is written in JSON. -/
  jsonType : JsonKind
  /-- What the field means, left to the reader of the snippet. -/
  description : String := ""
  deriving DecidableEq, Repr

/-- The call that documents a parameter. -/
def parameterCall (name description : String) : String :=
  "parameterWithName(\"" ++ escape name ++ "\").description(\"" ++ escape description ++ "\")"

/-- The call that documents a field of a body, or the parameter that a field of a model attribute
is. -/
def FieldEntry.render (entry : FieldEntry) : PayloadMode → String
  | .modelAttribute => parameterCall entry.path entry.description
  | .requestBody | .responseBody =>
    "fieldWithPath(\"" ++ escape entry.path ++ "\").type(JsonFieldType." ++ entry.jsonType.name ++
      ").description(\"" ++ escape entry.description ++ "\")"

/-- The entries of one payload. -/
structure FieldSet where
  /-- Which payload is documented. -/
  mode : PayloadMode
  /-- The entries in the order of the fields. -/
  entries : List FieldEntry := []
  deriving DecidableEq, Repr

/-- The entries as calls in a snippet. -/
def FieldSet.rendered (set : FieldSet) : List String :=
  set.entries.map (·.render set.mode)

end HandlerDocs
