import HandlerDocs.Config.Basic
import HandlerDocs.Fields.Entry
import HandlerDocs.Program.ClassIndex

/-!
# Walking the fields of a payload

The fields of a class are walked in source order down to the leaves. A field whose type is another
class is walked in turn, with the path of the field in front; a collection or an array is walked
through its element. A class that is being walked already is not entered again, and there is a limit
to how many classes are entered within each other, so the walk ends on every graph of classes.

All payloads of a handler are documented in one `Pass`, which remembers the classes that enclose the
current field and collects the diagnostics. A walk is written for any monad that holds a pass; it is
run as a `Walk`, which holds nothing else.

* `Pass.document` — the entries of a class.
* `Pass.documentRoot` — the entries of a payload type.
-/

namespace HandlerDocs

/-- The state of documenting several payloads. -/
structure Pass where
  /-- The names of the classes that are being walked, innermost first. -/
  enclosing : List String := []
  /-- What was left out so far, oldest first. -/
  diagnostics : List Diagnostic := []
  deriving DecidableEq, Repr

/-- A part of a walk, as it is run. -/
abbrev Walk :=
  StateM Pass

/-- What a walk looks things up in: the classes and the options. -/
structure Surroundings where
  /-- The classes. -/
  index : ClassIndex
  /-- The options. -/
  config : Config

namespace Walk

variable {m : Type → Type} [Monad m] [MonadStateOf Pass m]

/-! ### Steps -/

/-- Finds one leaf. -/
def leaf (path : String) (jsonType : JsonKind) : m (List FieldEntry) :=
  return [{ path, jsonType }]

/-- Leaves something out. -/
def skip (d : Diagnostic) : m (List FieldEntry) := do
  modify fun pass => { pass with diagnostics := pass.diagnostics ++ [d] }
  return []

/-- Walks the inside of a class. -/
def inside (name : String) (walk : m (List FieldEntry)) : m (List FieldEntry) := do
  modify fun pass => { pass with enclosing := name :: pass.enclosing }
  let entries ← walk
  modify fun pass => { pass with enclosing := pass.enclosing.tail }
  return entries

/-! ### Types -/

/-- Whether a type was reached as the type of a field or as the element of a collection. -/
inductive Position
  | field
  | element
  deriving DecidableEq, Repr

/-- The path of the elements of a collection. The elements of a field have the path of the field. -/
def Position.elementPath (path : String) : Position → String
  | field => path
  | element => path ++ ".[]"

/-- What the paths of the fields of an object start with. -/
def Position.objectStart (path : String) : Position → String
  | field => path ++ "."
  | element => path ++ ".[]."

/-- How a class is walked: given what the paths of its fields start with, and its own path. -/
abbrev Entering (m : Type → Type) :=
  ClassDecl → String → String → m (List FieldEntry)

/-- Walks a class type that is no standard type. -/
def object (index : ClassIndex) (enter : Entering m) (type : TypeRef) (path : String)
    (position : Position) : m (List FieldEntry) :=
  match index.resolve? type with
  | none => skip (.unresolvedType path type.text)
  | some c => if c.isEnum then leaf path .string else enter c (position.objectStart path) path

/-- Walks a type. -/
def type (index : ClassIndex) (enter : Entering m) :
    TypeRef → String → Position → m (List FieldEntry)
  | .primitive p, path, _ => leaf path (.ofName p.keyword)
  | .wildcard, path, _ => skip (.unresolvedType path (TypeRef.text .wildcard))
  | .array element, path, position =>
    type index enter element (position.elementPath path) .element
  | .named name [element], path, position =>
    if isCommonLeaf name then leaf path (.ofName name)
    else if isCollection name then type index enter element (position.elementPath path) .element
    else object index enter (.named name [element]) path position
  | .named name arguments, path, position =>
    if isCommonLeaf name then leaf path (.ofName name)
    else if isCollection name then skip (.malformedCollection path name arguments.length)
    else object index enter (.named name arguments) path position

/-! ### Classes -/

/-- The fields of a class that are documented. -/
def visibleFields (config : Config) (c : ClassDecl) : List FieldDecl :=
  c.fields.filter fun field => !(field.isStatic && config.skipStaticFields)

/-- Walks fields in their order. Their paths start with `start`. -/
def fields (index : ClassIndex) (enter : Entering m) (start : String) :
    List FieldDecl → m (List FieldEntry)
  | [] => return []
  | field :: rest => do
    let first ← type index enter field.type (start ++ field.name) .field
    let others ← fields index enter start rest
    return first ++ others

/-- Walks a class, unless it is being walked already or there is no room for another class. -/
def classDecl (env : Surroundings) (room : Nat) : Entering m := fun c start path => do
  if c.name ∈ (← get).enclosing then skip (.cyclicReference path c.name)
  else
    match room with
    | 0 => skip (.depthLimitExceeded path c.name env.config.maxDepth)
    | room + 1 =>
      inside c.name (fields env.index (classDecl env room) start (visibleFields env.config c))

/-- A text without the dots at its end. -/
def trimDots (s : String) : String :=
  String.ofList (Text.dropEndWhile (· == '.') s.toList)

/-- Documents the fields of a class. Their paths start with `start`. -/
def document (env : Surroundings) (c : ClassDecl) (start : String) : m (List FieldEntry) := do
  let room := env.config.maxDepth - (← get).enclosing.length
  classDecl env room c start (trimDots start)

/-! ### Payload types -/

/-- What a payload type is a collection of. -/
inductive Core
  /-- Something that is no collection. -/
  | single (type : TypeRef)
  /-- A collection type with a wrong number of arguments. -/
  | malformed (name : String) (arguments : Nat)
  deriving DecidableEq, Repr

/-- Takes the layers of collections and arrays off a payload type and counts them. -/
def peel : TypeRef → Nat × Core
  | .array element => ((peel element).1 + 1, (peel element).2)
  | .named name [element] =>
    if isCollection name then ((peel element).1 + 1, (peel element).2)
    else (0, .single (.named name [element]))
  | .named name arguments =>
    if isCollection name then (0, .malformed name arguments.length)
    else (0, .single (.named name arguments))
  | t => (0, .single t)

/-- What paths start with that lead through a number of collections. -/
def rootStart : Nat → String
  | 0 => ""
  | layers + 1 => "[]." ++ rootStart layers

/-- Documents the core of a payload type. -/
def core (env : Surroundings) (payload : TypeRef) (start : String) : Core → m (List FieldEntry)
  | .malformed name arguments => skip (.malformedCollection (trimDots start) name arguments)
  | .single (.primitive _) => skip (.scalarPayload payload.text)
  | .single (.named name arguments) =>
    if isCommonLeaf name then skip (.scalarPayload payload.text)
    else
      match env.index.get? name with
      | none => skip (.unresolvedType (trimDots start) (TypeRef.named name arguments).text)
      | some c =>
        if c.isEnum then skip (.scalarPayload payload.text) else document env c start
  | .single type => skip (.unresolvedType (trimDots start) type.text)

/-- Documents a payload type, or a page of such payloads. -/
def documentRoot (env : Surroundings) (payload : TypeRef) (paginated : Bool) :
    m (List FieldEntry) :=
  let layers := (peel payload).1 + if paginated then 1 else 0
  core env payload (rootStart layers) (peel payload).2

end Walk

namespace Pass

/-- Documents the fields of a class in a pass. -/
def document (pass : Pass) (env : Surroundings) (c : ClassDecl) (start : String)
    (mode : PayloadMode) : FieldSet × Pass :=
  let (entries, pass) := (Walk.document env c start : Walk _).run pass
  ({ mode, entries }, pass)

/-- Documents a payload type in a pass. -/
def documentRoot (pass : Pass) (env : Surroundings) (payload : TypeRef) (paginated : Bool)
    (mode : PayloadMode) : FieldSet × Pass :=
  let (entries, pass) := (Walk.documentRoot env payload paginated : Walk _).run pass
  ({ mode, entries }, pass)

/-- Documents a payload that may be missing; without it there are no entries. -/
def documentOptional (pass : Pass) (env : Surroundings) (payload : Option (TypeRef × Bool))
    (mode : PayloadMode) : FieldSet × Pass :=
  match payload with
  | some (type, paginated) => pass.documentRoot env type paginated mode
  | none => ({ mode }, pass)

end Pass

end HandlerDocs
