import HandlerDocs.Program.Handler
import HandlerDocs.Text.Basic
import HandlerDocs.Text.LetterCase
import HandlerDocs.Text.StringLiteral

/-!
# Request mappings

The first mapping annotation of a handler says which requests it answers. Most of these annotations
name a method of requests; the general one has it as an attribute. The path is joined to that of the
class that declares the handler.

The value of an attribute is source text: a single expression, or several ones between braces and
separated by commas. Documentation uses the first.

* `Path.join` — the path of a method behind the path of its controller, with one `/` between them.
* `Path.placeholderCount` — how many parts of a path are filled in by path variables.
* `Attribute.firstElement` — the first expression of a value.
* `Attribute.firstLiteral` — the first expression, read as a string literal.
* `HttpMethod.parse` — reads a method in any letter case, with blanks around it.
* `Handler.mapping?` — the mapping annotation of a handler and its method.
* `Handler.route?` — the method and the path.
-/

namespace HandlerDocs.Path

open Text

/-! ### Joining paths -/

/-- A path behind another one. A blank path adds nothing. -/
def joinChars (base path : List Char) : List Char :=
  match trim base, trim path with
  | [], path => path
  | base, [] => base
  | base, path => dropEndWhile (· == '/') base ++ '/' :: path.dropWhile (· == '/')

/-- A path behind another one. A blank path adds nothing. -/
def join (base path : String) : String :=
  String.ofList (joinChars base.toList path.toList)

/-! ### Placeholders -/

/-- The number of placeholders in a text of which a brace is open (`isOpen`) or not. A placeholder
starts at an opening brace and ends at the next closing one, unless a `/` lies between them. -/
def countPlaceholders (isOpen : Bool) : List Char → Nat
  | [] => 0
  | c :: rest =>
    if c = '/' then countPlaceholders false rest
    else if c = '}' then (if isOpen then 1 else 0) + countPlaceholders false rest
    else if c = '{' then countPlaceholders true rest
    else countPlaceholders isOpen rest

/-- The number of placeholders of a path. -/
def placeholderCount (path : String) : Nat :=
  countPlaceholders false path.toList

end HandlerDocs.Path

namespace HandlerDocs.Attribute

/-! ### Attribute values -/

open Text

/-- The text between braces, or the text itself when it is not between braces. -/
def betweenBraces : List Char → List Char
  | '{' :: rest => if rest.getLast? = some '}' then rest.dropLast else '{' :: rest
  | s => s

/-- The text up to the first comma outside string literals. Inside a literal (`inString`), a
backslash takes the character behind it along (`escaped`). -/
def upToComma (inString escaped : Bool) : List Char → List Char
  | [] => []
  | c :: rest =>
    if escaped then c :: upToComma inString false rest
    else if c = '\\' && inString then c :: upToComma inString true rest
    else if c = '"' then c :: upToComma (!inString) false rest
    else if c = ',' && !inString then []
    else c :: upToComma inString false rest

/-- The first expression of a value, without blanks at its ends. -/
def firstElementChars (raw : List Char) : List Char :=
  trim (upToComma false false (betweenBraces (trim raw)))

/-- The first expression of a value, without blanks at its ends. -/
def firstElement (raw : String) : String :=
  String.ofList (firstElementChars raw.toList)

/-- The first expression of a value, read as a string literal. -/
def firstLiteral (raw : String) : String :=
  unquote (firstElement raw)

end HandlerDocs.Attribute

namespace HandlerDocs

/-! ### Request methods -/

/-- A method of requests. -/
inductive HttpMethod
  | get
  | post
  | put
  | delete
  | patch
  deriving DecidableEq, Repr

/-- A text that names no method of requests. -/
structure UnsupportedMethod where
  /-- The text as it was written. -/
  text : String
  deriving DecidableEq, Repr

/-- The wording of the error. -/
def UnsupportedMethod.message (e : UnsupportedMethod) : String :=
  "Unsupported HTTP method: " ++ e.text

namespace HttpMethod

/-- All methods. -/
def all : List HttpMethod :=
  [get, post, put, delete, patch]

/-- The name of the request builder. -/
def builder : HttpMethod → String
  | get => "get"
  | post => "post"
  | put => "put"
  | delete => "delete"
  | patch => "patch"

/-- The name in capitals. -/
def name : HttpMethod → String
  | get => "GET"
  | post => "POST"
  | put => "PUT"
  | delete => "DELETE"
  | patch => "PATCH"

/-- The method that a text names, blanks and letter case aside. -/
def parse (text : String) : Except UnsupportedMethod HttpMethod :=
  let word := String.ofList ((Text.trim text.toList).flatMap Text.lower)
  match all.find? (·.builder == word) with
  | some method => .ok method
  | none => .error ⟨text⟩

end HttpMethod

/-! ### Mapping annotations -/

/-- The annotations that make a method a request handler. -/
inductive MappingKind
  | get
  | post
  | put
  | delete
  | patch
  /-- The general one, for any method. -/
  | request
  deriving DecidableEq, Repr

namespace MappingKind

/-- All kinds. -/
def all : List MappingKind :=
  [get, post, put, delete, patch, request]

/-- The reference name of a kind. -/
def name : MappingKind → String
  | get => "GetMapping"
  | post => "PostMapping"
  | put => "PutMapping"
  | delete => "DeleteMapping"
  | patch => "PatchMapping"
  | request => "RequestMapping"

/-- The kind with a reference name. -/
def ofName? (name : String) : Option MappingKind :=
  all.find? (·.name == name)

/-- Every kind is found by its name. -/
@[simp]
theorem ofName?_name (kind : MappingKind) : ofName? kind.name = some kind := by
  cases kind <;> decide

/-- The method that a kind implies. -/
def fixedMethod? : MappingKind → Option HttpMethod
  | get => some .get
  | post => some .post
  | put => some .put
  | delete => some .delete
  | patch => some .patch
  | request => none

end MappingKind

namespace Annotation

/-- The kind of a mapping annotation. -/
def mappingKind? (a : Annotation) : Option MappingKind :=
  MappingKind.ofName? a.referenceName

/-- The method that the attribute of a general mapping annotation names; without it the method is
`get`. -/
def requestMethod? (a : Annotation) : Option HttpMethod :=
  match a.attribute? "method" with
  | none => some .get
  | some raw =>
    let first := Attribute.firstElement raw
    if first = "" then some .get else (HttpMethod.parse (simpleName first)).toOption

/-- The path of a mapping annotation: its value, else its path, else nothing. -/
def mappingPath (a : Annotation) : String :=
  match (a.attribute? "value").or (a.attribute? "path") with
  | some raw => Attribute.firstLiteral raw
  | none => ""

/-- The method that a mapping annotation of a kind stands for. -/
def methodOfKind? (a : Annotation) (kind : MappingKind) : Option HttpMethod :=
  match kind.fixedMethod? with
  | some method => some method
  | none => a.requestMethod?

end Annotation

namespace Handler

/-- The first mapping annotation of a handler with the method it stands for. There is none when the
method cannot be documented. -/
def mapping? (h : Handler) : Option (HttpMethod × Annotation) :=
  match h.annotations.findSome? fun a => a.mappingKind?.map (a, ·) with
  | some (a, kind) => (a.methodOfKind? kind).map (·, a)
  | none => none

/-- The path that the class of a handler puts in front. -/
def basePath (h : Handler) : String :=
  match h.controllerAnnotations.find? fun a => a.mappingKind? == some .request with
  | some a => a.mappingPath
  | none => ""

/-- The path of the requests that a mapping annotation stands for. -/
def requestPath (h : Handler) (a : Annotation) : String :=
  Path.join h.basePath a.mappingPath

/-- The method and the path of the requests that a handler answers. -/
def route? (h : Handler) : Option (HttpMethod × String) :=
  h.mapping?.map fun (method, a) => (method, h.requestPath a)

end Handler

end HandlerDocs
