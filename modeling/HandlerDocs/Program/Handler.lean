import HandlerDocs.Text.Basic
import HandlerDocs.TypeRef.Basic

/-!
# Handlers

A `Handler` is a method that may answer requests: its annotations and those of the class that
declares it, its parameters, and its return type. Attribute values of annotations are kept as source
text. `Attributes` hold one value for each of finitely many keys, in the order of the keys, so that
equal contents are equal values.

* `Attributes.get?`, `Attributes.insert` — the value of a key, and setting it.
* `Attributes.get?_insert` — what is found after a key was set.
* `Annotation.referenceName` — the name of an annotation without package and `@`.
* `Annotation.attribute?` — the source text of an attribute.
-/

namespace HandlerDocs

/-! ### Attributes of annotations -/

/-- Values for finitely many keys, in the order of the keys. -/
structure Attributes where
  /-- The keys with their values. -/
  pairs : List (String × String)
  /-- The keys are in ascending order. -/
  sorted : pairs.Pairwise (fun p q => p.1 < q.1)
  deriving DecidableEq, Repr

namespace Attributes

/-- No attributes. -/
def empty : Attributes :=
  ⟨[], .nil⟩

/-- Sets the value of a key in a list of pairs sorted by key. -/
def insertPair (key value : String) : List (String × String) → List (String × String)
  | [] => [(key, value)]
  | pair :: rest =>
    if key = pair.1 then (key, value) :: rest
    else if key < pair.1 then (key, value) :: pair :: rest
    else pair :: insertPair key value rest

/-- Setting a value brings no other key in. -/
theorem mem_insertPair {key value : String} {pairs : List (String × String)} {p : String × String}
    (h : p ∈ insertPair key value pairs) : p = (key, value) ∨ p ∈ pairs := by
  induction pairs with
  | nil => simpa [insertPair] using h
  | cons q rest ih =>
    rw [insertPair] at h
    split at h
    · rcases List.mem_cons.1 h with h | h
      · exact .inl h
      · exact .inr (List.mem_cons_of_mem _ h)
    · split at h
      · rcases List.mem_cons.1 h with h | h
        · exact .inl h
        · exact .inr h
      · rcases List.mem_cons.1 h with h | h
        · exact .inr (h ▸ List.mem_cons_self)
        · exact (ih h).imp_right (List.mem_cons_of_mem _)

/-- Setting a value keeps the pairs sorted. -/
theorem sorted_insertPair (key value : String) {pairs : List (String × String)}
    (h : pairs.Pairwise (fun p q => p.1 < q.1)) :
    (insertPair key value pairs).Pairwise (fun p q => p.1 < q.1) := by
  induction pairs with
  | nil => simp [insertPair]
  | cons q rest ih =>
    rw [List.pairwise_cons] at h
    rw [insertPair]
    split
    · rename_i hk
      exact List.pairwise_cons.2 ⟨fun p hp => hk ▸ h.1 p hp, h.2⟩
    · rename_i hk
      split
      · rename_i hlt
        refine List.pairwise_cons.2 ⟨fun p hp => ?_, List.pairwise_cons.2 h⟩
        rcases List.mem_cons.1 hp with rfl | hp
        · exact hlt
        · exact String.lt_trans hlt (h.1 p hp)
      · rename_i hlt
        refine List.pairwise_cons.2 ⟨fun p hp => ?_, ih h.2⟩
        rcases mem_insertPair hp with rfl | hp
        · have hle : q.1 ≤ key := String.not_lt.1 hlt
          exact Decidable.byContradiction fun hn =>
            hk (String.le_antisymm (String.not_lt.1 hn) hle)
        · exact h.1 p hp

/-- The attributes with the value of one key set. -/
def insert (a : Attributes) (key value : String) : Attributes where
  pairs := insertPair key value a.pairs
  sorted := sorted_insertPair key value a.sorted

/-- The attributes of a list of pairs; of several values of one key the last one stays. -/
def ofList (pairs : List (String × String)) : Attributes :=
  pairs.foldl (fun a pair => a.insert pair.1 pair.2) empty

/-- The value of a key. -/
def get? (a : Attributes) (key : String) : Option String :=
  a.pairs.lookup key

/-- A key that was set has its new value, and the other keys keep theirs. -/
theorem get?_insert (a : Attributes) (key value other : String) :
    (a.insert key value).get? other = if other = key then some value else a.get? other := by
  obtain ⟨pairs, sorted⟩ := a
  simp only [get?, insert]
  clear sorted
  induction pairs with
  | nil =>
    by_cases h : other = key <;> simp [insertPair, List.lookup_cons, h, beq_eq_false_iff_ne.2]
  | cons p rest ih =>
    obtain ⟨k, v⟩ := p
    rw [insertPair]
    by_cases hk : key = k
    · subst hk
      by_cases h : other = key
      · simp [h]
      · simp [List.lookup_cons, h, beq_eq_false_iff_ne.2 h]
    · by_cases h : other = key
      · subst h
        by_cases hlt : other < k
        · simp [hk, hlt]
        · simp [List.lookup_cons, hk, hlt, beq_eq_false_iff_ne.2 hk, ih]
      · by_cases hlt : key < k
        · simp [List.lookup_cons, hk, hlt, h, beq_eq_false_iff_ne.2 h]
        · simp only [hk, hlt, if_false, List.lookup_cons, ih, h]

end Attributes

/-! ### Handlers and their annotations -/

/-- An annotation and its attributes. -/
structure Annotation where
  /-- The name as written. -/
  name : String
  /-- The source texts of the attributes. -/
  attributes : Attributes := .empty
  deriving DecidableEq, Repr

/-- A parameter of a handler. -/
structure Parameter where
  /-- The name of the parameter. -/
  name : String
  /-- Its declared type. -/
  type : TypeRef
  /-- Its annotations in source order. -/
  annotations : List Annotation := []
  deriving DecidableEq, Repr

/-- A method that may answer requests. -/
structure Handler where
  /-- The name of the method. -/
  name : String
  /-- The annotations of the class that declares the method. -/
  controllerAnnotations : List Annotation := []
  /-- The annotations of the method itself. -/
  annotations : List Annotation := []
  /-- The parameters in source order. -/
  parameters : List Parameter := []
  /-- The declared return type, if there is one. -/
  returnType : Option TypeRef := none
  deriving DecidableEq, Repr

namespace Annotation

/-- The name without package and leading `@`. -/
def referenceName (a : Annotation) : String :=
  simpleName (String.ofList (a.name.toList.dropWhile (· == '@')))

/-- The source text of an attribute. -/
def attribute? (a : Annotation) (key : String) : Option String :=
  a.attributes.get? key

end Annotation

/-! ### Declarations step by step -/

/-- The annotation with one attribute set. -/
def Annotation.withAttribute (a : Annotation) (key value : String) : Annotation :=
  { a with attributes := a.attributes.insert key value }

/-- The parameter with one more annotation. -/
def Parameter.annotated (p : Parameter) (a : Annotation) : Parameter :=
  { p with annotations := p.annotations ++ [a] }

namespace Handler

/-- The handler with one more annotation. -/
def annotated (h : Handler) (a : Annotation) : Handler :=
  { h with annotations := h.annotations ++ [a] }

/-- The handler with one more annotation of the class that declares it. -/
def inController (h : Handler) (a : Annotation) : Handler :=
  { h with controllerAnnotations := h.controllerAnnotations ++ [a] }

/-- The handler with one more parameter. -/
def withParameter (h : Handler) (p : Parameter) : Handler :=
  { h with parameters := h.parameters ++ [p] }

/-- The handler with a return type. -/
def returning (h : Handler) (type : TypeRef) : Handler :=
  { h with returnType := some type }

end Handler

end HandlerDocs
