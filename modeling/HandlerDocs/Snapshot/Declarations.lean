import HandlerDocs.Program.ClassIndex
import HandlerDocs.Program.Handler
import HandlerDocs.TypeRef.Parser

/-!
# Declarations and snapshots

A `Declarations` lists the classes and handlers of a program as they stand in a file. It is made of
records, lists, texts and truth values. A **format** says how each of them is read from its values,
and what is reported when a value does not fit; the contents of the records are the same in every
format.

A `Snapshot` is what a program offers for documentation: its classes, indexed by name, and its
handlers in their order.

* `Record` — how a record is filled field by field.
* `Format` — how the values of a format are read.
* `Declarations.read` — reads the declarations from a value.
* `Snapshot.ofDeclarations`, `Snapshot.declarations` — the snapshot of declarations, and back.
* `Snapshot.handler?` — the handler with a name.
-/

namespace HandlerDocs

/-! ### Formats -/

/-- One field of a record: how a value changes a record that is being filled. -/
structure RecordField (ν ε α : Type) where
  /-- The key of the field. -/
  key : String
  /-- Whether a record without the field is refused. -/
  isRequired : Bool
  /-- Fills the field. -/
  fill : ν → α → Except ε α

/-- How a record is filled. -/
structure Record (ν ε α : Type) where
  /-- What an error message calls the record. -/
  name : String
  /-- The record before any field is filled. -/
  start : α
  /-- The fields in their order. -/
  fields : List (RecordField ν ε α)
  /-- Whether other keys are refused, and not only passed over. -/
  refusesOthers : Bool := false

namespace Record

/-- A field whose value is read and stored. -/
def field {ν ε α β : Type} (key : String) (isRequired : Bool) (read : ν → Except ε β)
    (store : β → α → α) : RecordField ν ε α where
  key
  isRequired
  fill value record := (read value).map (store · record)

variable {ν ε α : Type} (r : Record ν ε α)

/-- The field with a key. -/
def field? (key : String) : Option (RecordField ν ε α) :=
  r.fields.find? (·.key == key)

/-- The first field that is required but not among the `seen` ones. -/
def missing? (seen : List String) : Option String :=
  (r.fields.find? fun f => f.isRequired && !seen.contains f.key).map (·.key)

end Record

/-- How the values `ν` of a format are read, with the failures `ε`. -/
class Format (ν : Type) (ε : outParam Type) where
  /-- Reads a text. -/
  text : ν → Except ε String
  /-- Reads a truth value. -/
  truth : ν → Except ε Bool
  /-- Reads one of several words. -/
  word {α : Type} : List (String × α) → ν → Except ε α
  /-- Reads a value that may be left out. -/
  optional {α : Type} : (ν → Except ε α) → ν → Except ε (Option α)
  /-- Reads a list. -/
  list {α : Type} : (ν → Except ε α) → ν → Except ε (List α)
  /-- Reads texts by keys, in their order. -/
  texts : ν → Except ε (List (String × String))
  /-- Reads a record. -/
  record {α : Type} : Record ν ε α → ν → Except ε α
  /-- Refuses a text that is no type. -/
  refuse : TypeTextError → ε

/-! ### Declarations -/

/-- The classes and handlers of a program as listed in a file. -/
structure Declarations where
  /-- The classes. -/
  classes : List ClassDecl := []
  /-- The handlers. -/
  handlers : List Handler := []
  deriving DecidableEq, Repr

namespace Declarations

variable {ν ε : Type} [Format ν ε]

/-- Reads a type. -/
def readType (value : ν) : Except ε TypeRef := do
  match TypeRef.parse (← Format.text value) with
  | .ok type => return type
  | .error e => throw (Format.refuse (ν := ν) e)

/-- How a field is filled. -/
def fieldRecord : Record ν ε FieldDecl where
  name := "FieldInfo"
  start := { name := "", type := .wildcard }
  fields :=
    [Record.field "name" true Format.text fun name f => { f with name },
      Record.field "type" true readType fun type f => { f with type },
      Record.field "static" false Format.truth fun isStatic f => { f with isStatic }]

/-- The keywords of the kinds of classes. -/
def kindWords : List (String × ClassKind) :=
  ClassKind.all.map fun kind => (kind.keyword, kind)

/-- How a class is filled. -/
def classRecord : Record ν ε ClassDecl where
  name := "ClassInfo"
  start := { name := "" }
  fields :=
    [Record.field "name" true Format.text fun name c => { c with name },
      Record.field "kind" false (Format.word kindWords) fun kind c => { c with kind },
      Record.field "fields" false (Format.list (Format.record fieldRecord))
        fun fields c => { c with fields }]

/-- How an annotation is filled. -/
def markRecord : Record ν ε Annotation where
  name := "Annotation"
  start := { name := "" }
  fields :=
    [Record.field "name" true Format.text fun name a => { a with name },
      Record.field "attributes" false Format.texts
        fun pairs a => { a with attributes := Attributes.ofList pairs }]

/-- How a parameter is filled. -/
def parameterRecord : Record ν ε Parameter where
  name := "ParamInfo"
  start := { name := "", type := .wildcard }
  fields :=
    [Record.field "name" true Format.text fun name p => { p with name },
      Record.field "type" true readType fun type p => { p with type },
      Record.field "annotations" false (Format.list (Format.record markRecord))
        fun annotations p => { p with annotations }]

/-- How a handler is filled. -/
def handlerRecord : Record ν ε Handler where
  name := "HandlerMethod"
  start := { name := "" }
  fields :=
    [Record.field "name" true Format.text fun name h => { h with name },
      Record.field "controller_annotations" false (Format.list (Format.record markRecord))
        fun controllerAnnotations h => { h with controllerAnnotations },
      Record.field "annotations" false (Format.list (Format.record markRecord))
        fun annotations h => { h with annotations },
      Record.field "parameters" false (Format.list (Format.record parameterRecord))
        fun parameters h => { h with parameters },
      Record.field "return_type" false (Format.optional readType)
        fun returnType h => { h with returnType }]

/-- How the declarations are filled. -/
def record : Record ν ε Declarations where
  name := "SnapshotDocument"
  start := {}
  fields :=
    [Record.field "classes" false (Format.list (Format.record classRecord))
        fun classes d => { d with classes },
      Record.field "handlers" false (Format.list (Format.record handlerRecord))
        fun handlers d => { d with handlers }]
  refusesOthers := true

/-- Reads the declarations from a value. -/
def read (value : ν) : Except ε Declarations :=
  Format.record record value

end Declarations

/-! ### Snapshots -/

/-- The classes and handlers of a program. -/
structure Snapshot where
  /-- The classes by name. -/
  index : ClassIndex := .empty
  /-- The handlers in their order. -/
  handlers : List Handler := []

namespace Snapshot

/-- The snapshot of what is declared in a file. -/
def ofDeclarations (declarations : Declarations) : Snapshot where
  index := .ofList declarations.classes
  handlers := declarations.handlers

/-- The declarations of a snapshot, with the classes in the order of the index. -/
def declarations (snapshot : Snapshot) : Declarations where
  classes := snapshot.index.classes
  handlers := snapshot.handlers

/-- The first handler with a name. -/
def handler? (snapshot : Snapshot) (name : String) : Option Handler :=
  snapshot.handlers.find? (·.name == name)

end Snapshot

end HandlerDocs
