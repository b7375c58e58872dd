import HandlerDocs.Fields.Traversal
import Mathlib.Data.Finset.Card

/-!
# What becomes of the fields of a class

`outcomes` says what a documentation comes to without a state that is threaded through it: one list,
in the order of the fields, with one `Outcome` for every place at which the documentation ends. An
outcome is a documented leaf or a diagnostic, so the entries and the diagnostics are the two
projections of that list.

The type of a field is looked at once. Its layers of collections and arrays are peeled off
(`Walk.peel`), and what its core stands for (`Walk.Core.resolve`) decides the `Target` of the field:
either the field is settled, or it leads to an object. With `n` layers a field is settled at the
path `start ++ name` followed by `n - 1` marks `.[]`, and the fields of an object start behind all
`n` of them. An object is unfolded exactly when its class is not on the path already and there is
room for another class. It is unfolded into the fields that its class declares, in their order, but
for the static ones where the configuration leaves them out.

A `Root` is where a documentation starts: a class with what its paths start with, or a payload type.
-/

namespace HandlerDocs

/-! ### Outcomes -/

/-- What a documentation comes to at one place. -/
inductive Outcome
  /-- A leaf that is documented. -/
  | leaf (entry : FieldEntry)
  /-- Something that is left out. -/
  | skipped (d : Diagnostic)
  deriving DecidableEq, Repr

namespace Outcome

/-- The entry of an outcome that is one. -/
def entry? : Outcome → Option FieldEntry
  | leaf entry => some entry
  | skipped _ => none

/-- The diagnostic of an outcome that is one. -/
def diagnostic? : Outcome → Option Diagnostic
  | leaf _ => none
  | skipped d => some d

/-- The entries of a list of outcomes. -/
def entries (os : List Outcome) : List FieldEntry :=
  os.filterMap entry?

/-- The diagnostics of a list of outcomes. -/
def diagnostics (os : List Outcome) : List Diagnostic :=
  os.filterMap diagnostic?

@[simp] theorem entries_nil : entries [] = [] := rfl

@[simp] theorem diagnostics_nil : diagnostics [] = [] := rfl

@[simp] theorem entries_leaf (entry : FieldEntry) : entries [leaf entry] = [entry] := rfl

@[simp] theorem diagnostics_leaf (entry : FieldEntry) : diagnostics [leaf entry] = [] := rfl

@[simp] theorem entries_skipped (d : Diagnostic) : entries [skipped d] = [] := rfl

@[simp] theorem diagnostics_skipped (d : Diagnostic) : diagnostics [skipped d] = [d] := rfl

@[simp]
theorem entries_append (os os' : List Outcome) : entries (os ++ os') = entries os ++ entries os' :=
  List.filterMap_append

@[simp]
theorem diagnostics_append (os os' : List Outcome) :
    diagnostics (os ++ os') = diagnostics os ++ diagnostics os' :=
  List.filterMap_append

theorem entries_cons (o : Outcome) (os : List Outcome) :
    entries (o :: os) = entries [o] ++ entries os := by
  rw [← entries_append, List.singleton_append]

theorem diagnostics_cons (o : Outcome) (os : List Outcome) :
    diagnostics (o :: os) = diagnostics [o] ++ diagnostics os := by
  rw [← diagnostics_append, List.singleton_append]

/-- Every outcome is in exactly one of the two projections. -/
theorem length_entries_add_length_diagnostics (os : List Outcome) :
    (entries os).length + (diagnostics os).length = os.length := by
  induction os with
  | nil => rfl
  | cons o os ih =>
    rw [List.length_cons, ← ih]
    cases o with
    | leaf entry => exact Nat.succ_add _ _
    | skipped d => exact Nat.add_succ _ _

end Outcome

namespace Walk

/-! ### Cores -/

/-- What the core of a type stands for. -/
inductive Resolution
  /-- A value that is written in one piece. -/
  | leaf (jsonType : JsonKind)
  /-- An object of a class. -/
  | object (c : ClassDecl)
  /-- A type without a known class. -/
  | unresolved (typeName : String)
  /-- A collection type with a wrong number of arguments. -/
  | malformed (typeName : String) (arguments : Nat)

/-- What a core stands for: primitive types, common leaves and enumerations are leaves, and other
class types are objects of the class that has their name. -/
def Core.resolve (index : ClassIndex) : Core → Resolution
  | .malformed name arguments => .malformed name arguments
  | .single (.primitive p) => .leaf (.ofName p.keyword)
  | .single (.named name arguments) =>
    if isCommonLeaf name then .leaf (.ofName name)
    else
      match index.get? name with
      | none => .unresolved (TypeRef.named name arguments).text
      | some c => if c.isEnum then .leaf .string else .object c
  | .single type => .unresolved type.text

/-- The mark `.[]`, once for each layer. -/
def marks : Nat → String
  | 0 => ""
  | layers + 1 => ".[]" ++ marks layers

/-! ### Targets -/

/-- What a field or a payload leads to. -/
inductive Target
  /-- Nothing is left to be unfolded. -/
  | settled (o : Outcome)
  /-- An object: its class, what the paths of its fields start with, and its own path. -/
  | object (c : ClassDecl) (start path : String)

/-- What something at `path` leads to by what its type stands for. The paths of the fields of an
object start with `start`. -/
def Resolution.target (r : Resolution) (start path : String) (ofLeaf : JsonKind → Outcome) :
    Target :=
  match r with
  | .leaf jsonType => .settled (ofLeaf jsonType)
  | .object c => .object c start path
  | .unresolved typeName => .settled (.skipped (.unresolvedType path typeName))
  | .malformed typeName arguments =>
    .settled (.skipped (.malformedCollection path typeName arguments))

/-- What a field leads to whose path starts with `start`. -/
def Target.ofField (index : ClassIndex) (start : String) (field : FieldDecl) : Target :=
  let layers := (peel field.type).1
  let path := start ++ field.name ++ marks (layers - 1)
  ((peel field.type).2.resolve index).target (start ++ field.name ++ marks layers ++ ".") path
    fun jsonType => .leaf { path, jsonType }

/-- The outcomes of a target below the classes whose names are `onPath`. -/
def outcomes (env : Surroundings) (onPath : Finset String) : Target → List Outcome
  | .settled o => [o]
  | .object c start path =>
    if c.name ∈ onPath then [.skipped (.cyclicReference path c.name)]
    else if onPath.card < env.config.maxDepth then
      (c.fields.filter fun field => !(field.isStatic && env.config.skipStaticFields)).flatMap
        fun field => outcomes env (insert c.name onPath) (.ofField env.index start field)
    else [.skipped (.depthLimitExceeded path c.name env.config.maxDepth)]
termination_by env.config.maxDepth - onPath.card
decreasing_by
  have : (insert c.name onPath).card = onPath.card + 1 := Finset.card_insert_of_notMem ‹_›
  omega

@[simp]
theorem outcomes_settled (env : Surroundings) (onPath : Finset String) (o : Outcome) :
    outcomes env onPath (.settled o) = [o] := by
  rw [outcomes]

/-! ### Roots -/

/-- Where a documentation starts. -/
inductive Root
  /-- A class. The paths of its fields start with `start`. -/
  | declared (c : ClassDecl) (start : String)
  /-- A payload type, or a page of such payloads. -/
  | payload (type : TypeRef) (paginated : Bool)

namespace Root

/-- What a root leads to. A payload that is a leaf has nothing to document. -/
def target (index : ClassIndex) : Root → Target
  | declared c start => .object c start (trimDots start)
  | payload type paginated =>
    let start := rootStart ((peel type).1 + if paginated then 1 else 0)
    ((peel type).2.resolve index).target start (trimDots start)
      fun _ => .skipped (.scalarPayload type.text)

/-- The outcomes of a root: nothing is on the path yet. -/
def outcomes (env : Surroundings) (root : Root) : List Outcome :=
  Walk.outcomes env ∅ (root.target env.index)

/-- The classes that a documentation may come across. -/
def classes (index : ClassIndex) : Root → List ClassDecl
  | declared c _ => c :: index.classes
  | payload _ _ => index.classes

/-- The names of the classes that a documentation may come across. -/
def names (index : ClassIndex) (root : Root) : Finset String :=
  ((root.classes index).map ClassDecl.name).toFinset

end Root

/-! ### The classes of targets -/

/-- An object target is of one of some classes. -/
def Target.IsOf (classes : List ClassDecl) : Target → Prop
  | .settled _ => True
  | .object c _ _ => c ∈ classes

theorem mem_classes_of_get? {index : ClassIndex} {name : String} {c : ClassDecl}
    (h : index.get? name = some c) : c ∈ index.classes := by
  rw [ClassIndex.get?] at h
  split at h
  · rename_i d hd
    obtain rfl : d = c := Option.some.inj h
    exact List.mem_of_find?_eq_some hd
  · split at h
    · exact absurd h (by simp)
    · split at h
      · rename_i d hd
        obtain rfl : d = c := Option.some.inj h
        exact List.mem_of_mem_filter (hd ▸ List.mem_singleton_self d)
      · exact absurd h (by simp)

theorem mem_classes_of_resolve {index : ClassIndex} {k : Core} {c : ClassDecl}
    (h : k.resolve index = .object c) : c ∈ index.classes := by
  unfold Core.resolve at h
  split at h
  · cases h
  · cases h
  · split at h
    · cases h
    · split at h
      · cases h
      · rename_i d hget
        split at h
        · cases h
        · obtain rfl : d = c := Resolution.object.inj h
          exact mem_classes_of_get? hget
  · cases h

theorem isOf_target_resolve (index : ClassIndex) (k : Core) (start path : String)
    (ofLeaf : JsonKind → Outcome) :
    ((k.resolve index).target start path ofLeaf).IsOf index.classes := by
  cases h : k.resolve index with
  | object c => exact mem_classes_of_resolve h
  | leaf jsonType => trivial
  | unresolved typeName => trivial
  | malformed typeName arguments => trivial

/-- A field leads to an indexed class, if to any. -/
theorem Target.isOf_ofField (index : ClassIndex) (start : String) (field : FieldDecl) :
    (ofField index start field).IsOf index.classes :=
  isOf_target_resolve ..

/-- A root leads to one of the classes that its documentation may come across, if to any. -/
theorem Root.isOf_target (index : ClassIndex) (root : Root) :
    (root.target index).IsOf (root.classes index) := by
  cases root with
  | declared c start => exact List.mem_cons_self
  | payload type paginated => exact isOf_target_resolve ..

theorem Root.classes_subset (index : ClassIndex) (root : Root) :
    index.classes ⊆ root.classes index := by
  cases root with
  | declared c start => exact List.subset_cons_self c _
  | payload type paginated => exact List.Subset.refl _

theorem Target.IsOf.mono {classes classes' : List ClassDecl} {t : Target} (h : t.IsOf classes)
    (hsub : classes ⊆ classes') : t.IsOf classes' := by
  cases t with
  | settled o => trivial
  | object c start path => exact hsub h

/-! ### Walks -/

/-- The walk that documents from a root. -/
def Root.walk {m : Type → Type} [Monad m] [MonadStateOf Pass m] (env : Surroundings) :
    Root → m (List FieldEntry)
  | declared c start => document env c start
  | payload type paginated => documentRoot env type paginated

end Walk

/-- Documents from a root in a pass. -/
def Pass.documentFrom (pass : Pass) (env : Surroundings) (root : Walk.Root) (mode : PayloadMode) :
    FieldSet × Pass :=
  match root with
  | .declared c start => pass.document env c start mode
  | .payload type paginated => pass.documentRoot env type paginated mode

/-- Documenting from a root is running its walk. -/
theorem Pass.documentFrom_eq_run (pass : Pass) (env : Surroundings) (root : Walk.Root)
    (mode : PayloadMode) :
    pass.documentFrom env root mode =
      ({ mode, entries := ((root.walk env : Walk _).run pass).1 },
        ((root.walk env : Walk _).run pass).2) := by
  cases root with
  | declared c start => rfl
  | payload type paginated => rfl

end HandlerDocs
