import HandlerDocs.Json.Tree
import HandlerDocs.Snapshot.Declarations

/-!
# Writing snapshots in JSON

Types are written as texts. What is false or without entries is left out where that is its usual
state: `static` and `attributes`.

* `Declarations.toJson` — the JSON value of declarations.
-/

namespace HandlerDocs

open Json (Tree)

namespace Json.Tree

/-- An array with its end. -/
def list {α : Type} (f : α → Tree) (items : List α) : Tree :=
  array (items.map f) true

/-- An object with its end. -/
def ofPairs (pairs : List (String × Tree)) : Tree :=
  object (pairs.map fun pair => (text pair.1, pair.2)) true

end Json.Tree

/-- The JSON value of a type. -/
def TypeRef.toJson (type : TypeRef) : Tree :=
  .text type.text

/-- The JSON value of a field. -/
def FieldDecl.toJson (f : FieldDecl) : Tree :=
  .ofPairs ([("name", .text f.name), ("type", f.type.toJson)] ++
    if f.isStatic then [("static", .truth true)] else [])

/-- The JSON value of a class. -/
def ClassDecl.toJson (c : ClassDecl) : Tree :=
  .ofPairs [("name", .text c.name), ("kind", .text c.kind.keyword),
    ("fields", .list FieldDecl.toJson c.fields)]

/-- The JSON value of attributes. -/
def Attributes.toJson (attributes : Attributes) : Tree :=
  .ofPairs (attributes.pairs.map fun pair => (pair.1, .text pair.2))

/-- The JSON value of a mark with its attributes. -/
def Annotation.toJson (a : Annotation) : Tree :=
  .ofPairs ([("name", .text a.name)] ++
    if a.attributes.pairs.isEmpty then [] else [("attributes", a.attributes.toJson)])

/-- The JSON value of a parameter. -/
def Parameter.toJson (p : Parameter) : Tree :=
  .ofPairs [("name", .text p.name), ("type", p.type.toJson),
    ("annotations", .list Annotation.toJson p.annotations)]

/-- The JSON value of a handler. -/
def Handler.toJson (h : Handler) : Tree :=
  .ofPairs [("name", .text h.name),
    ("controller_annotations", .list Annotation.toJson h.controllerAnnotations),
    ("annotations", .list Annotation.toJson h.annotations),
    ("parameters", .list Parameter.toJson h.parameters),
    ("return_type", h.returnType.elim .null TypeRef.toJson)]

/-- The JSON value of declarations. -/
def Declarations.toJson (declarations : Declarations) : Tree :=
  .ofPairs [("classes", .list ClassDecl.toJson declarations.classes),
    ("handlers", .list Handler.toJson declarations.handlers)]

end HandlerDocs
