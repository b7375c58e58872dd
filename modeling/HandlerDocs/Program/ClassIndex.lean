import HandlerDocs.Text.Basic
import HandlerDocs.TypeRef.Basic

/-!
# Classes and their index

A `ClassDecl` is a class declaration as far as documentation needs it: its full name, its kind and
its declared fields in source order. A `ClassIndex` holds classes with pairwise distinct full names
in the order of their first insertion. It is asked by name: a full name finds its class, and a name
with a single segment also finds the only class with that simple name.

* `ClassDecl.simpleName`, `ClassDecl.isEnum` — what lookup and documentation ask of a class.
* `ClassDecl.named`, `ClassDecl.enumeration`, `withField`, `withFields` — declarations step by step.
* `ClassIndex.insert` — adds a class, in the place of an earlier one with the same name.
* `ClassIndex.get?` — the lookup by name.
* `ClassIndex.resolve?` — the class of a type.
-/

namespace HandlerDocs

/-! ### Classes -/

/-- The kind of a class declaration. -/
inductive ClassKind
  | plain
  | interface
  | enumeration
  | record
  deriving DecidableEq, Repr

namespace ClassKind

/-- The keyword of a kind. -/
def keyword : ClassKind → String
  | plain => "class"
  | interface => "interface"
  | enumeration => "enum"
  | record => "record"

/-- All kinds. -/
def all : List ClassKind :=
  [plain, interface, enumeration, record]

/-- The kind with a keyword. -/
def ofKeyword? (word : String) : Option ClassKind :=
  all.find? (·.keyword == word)

/-- Every kind is found by its keyword. -/
@[simp]
theorem ofKeyword?_keyword (kind : ClassKind) : ofKeyword? kind.keyword = some kind := by
  cases kind <;> decide

end ClassKind

/-- A declared field. -/
structure FieldDecl where
  /-- The name of the field. -/
  name : String
  /-- Its declared type. -/
  type : TypeRef
  /-- Whether it belongs to the class and not to its objects. -/
  isStatic : Bool := false
  deriving DecidableEq, Repr

/-- A class declaration. -/
structure ClassDecl where
  /-- The full name. -/
  name : String
  /-- The kind of declaration. -/
  kind : ClassKind := .plain
  /-- The declared fields in source order. -/
  fields : List FieldDecl := []
  deriving DecidableEq, Repr

namespace ClassDecl

/-- The last segment of the full name. -/
def simpleName (c : ClassDecl) : String :=
  HandlerDocs.simpleName c.name

/-- Whether the class is an enumeration. -/
def isEnum (c : ClassDecl) : Bool :=
  c.kind == .enumeration

/-! ### Declarations step by step -/

/-- A plain class without fields. -/
def named (name : String) : ClassDecl :=
  { name }

/-- An enumeration without fields. -/
def enumeration (name : String) : ClassDecl :=
  { name, kind := .enumeration }

/-- The class with more fields behind its own. -/
def withFields (c : ClassDecl) (fields : List FieldDecl) : ClassDecl :=
  { c with fields := c.fields ++ fields }

/-- The class with one more field behind its own. -/
def withField (c : ClassDecl) (name : String) (type : TypeRef) : ClassDecl :=
  c.withFields [{ name, type }]

end ClassDecl

/-! ### The index -/

/-- Classes with pairwise distinct names, in the order of their first insertion. -/
structure ClassIndex where
  /-- The classes. -/
  classes : List ClassDecl := []
  /-- No name occurs twice. -/
  nodup_names : (classes.map ClassDecl.name).Nodup := by simp

namespace ClassIndex

/-- The classes of a list with one of them exchanged, or added behind the others when its name is
new. -/
def replaceOrAdd (c : ClassDecl) : List ClassDecl → List ClassDecl
  | [] => [c]
  | d :: rest => if d.name = c.name then c :: rest else d :: replaceOrAdd c rest

/-- The names after an insertion: the new one is added when it is new. -/
theorem map_name_replaceOrAdd (c : ClassDecl) (classes : List ClassDecl) :
    (replaceOrAdd c classes).map ClassDecl.name =
      if c.name ∈ classes.map ClassDecl.name then classes.map ClassDecl.name
      else classes.map ClassDecl.name ++ [c.name] := by
  induction classes with
  | nil => simp [replaceOrAdd]
  | cons d rest ih =>
    by_cases h : d.name = c.name
    · simp [replaceOrAdd, h]
    · have h' : c.name ≠ d.name := fun e => h e.symm
      simp only [replaceOrAdd, h, if_false, List.map_cons, ih, List.mem_cons, h', false_or]
      split <;> simp

/-- Inserting keeps the names distinct. -/
theorem nodup_replaceOrAdd (c : ClassDecl) {classes : List ClassDecl}
    (h : (classes.map ClassDecl.name).Nodup) :
    ((replaceOrAdd c classes).map ClassDecl.name).Nodup := by
  rw [map_name_replaceOrAdd]
  split
  · exact h
  · rename_i hc
    rw [List.nodup_append]
    refine ⟨h, by simp, ?_⟩
    intro a ha b hb hab
    have hbc : b = c.name := by simpa using hb
    exact hc (hbc ▸ hab ▸ ha)

/-- The index without classes. -/
def empty : ClassIndex :=
  {}

/-- Adds a class, in the place of an earlier class with the same name. -/
def insert (index : ClassIndex) (c : ClassDecl) : ClassIndex where
  classes := replaceOrAdd c index.classes
  nodup_names := nodup_replaceOrAdd c index.nodup_names

/-- The index of a list of classes, inserted one after the other. -/
def ofList (classes : List ClassDecl) : ClassIndex :=
  classes.foldl insert empty

/-- The number of classes. -/
def size (index : ClassIndex) : Nat :=
  index.classes.length

/-- The class with a name. A name with a single segment that is no full name finds the only class
with that simple name. -/
def get? (index : ClassIndex) (name : String) : Option ClassDecl :=
  match index.classes.find? (·.name == name) with
  | some c => some c
  | none =>
    if isQualified name then none
    else
      match index.classes.filter (·.simpleName == name) with
      | [c] => some c
      | _ => none

/-- The class of a class type; other types have none. -/
def resolve? (index : ClassIndex) : TypeRef → Option ClassDecl
  | .named name _ => index.get? name
  | _ => none

end ClassIndex

end HandlerDocs
