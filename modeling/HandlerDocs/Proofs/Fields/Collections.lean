import HandlerDocs.Proofs.Fields.Wrapping

/-!
# Payloads that are collections

A payload may be an array or a collection, perhaps of arrays or collections again. Documenting it
comes to documenting the class at its core, with one mark `[].` for each of the layers in front of
all paths. The layers are taken off in one go (`peel_of_isLayered`), and what they put in front of
the paths is carried along unchanged through all fields (`outcomes_under`), however these are nested
or cut off. A page of payloads is one more layer, and it makes no difference whether a layer is a
page, a collection or an array (`entries_payload_of_peel`).

* `Pass.documentRoot_collections` — payloads inside of layers, and the three kinds of layers.
-/

namespace HandlerDocs

namespace Walk

/-! ### Layers -/

/-- A type inside of a number of layers, each of which is an array or a collection type with one
argument. -/
inductive IsLayered (core : TypeRef) : Nat → TypeRef → Prop
  /-- No layer at all. -/
  | nil : IsLayered core 0 core
  /-- An array. -/
  | array {layers : Nat} {t : TypeRef} :
    IsLayered core layers t → IsLayered core (layers + 1) (.array t)
  /-- A collection type with one argument. -/
  | collection {layers : Nat} {t : TypeRef} {name : String} :
    isCollection name = true → IsLayered core layers t →
      IsLayered core (layers + 1) (.named name [t])

theorem peel_array (t : TypeRef) : peel (.array t) = ((peel t).1 + 1, (peel t).2) := by
  rw [peel]

theorem peel_collection {name : String} (h : isCollection name = true) (t : TypeRef) :
    peel (.named name [t]) = ((peel t).1 + 1, (peel t).2) := by
  rw [peel, if_pos h]

/-- A type that is no collection is its own core. -/
theorem peel_named {name : String} (h : isCollection name = false) (arguments : List TypeRef) :
    peel (.named name arguments) = (0, .single (.named name arguments)) := by
  match arguments with
  | [] | [_] | _ :: _ :: _ => simp [peel, h]

/-- All layers are taken off. -/
theorem peel_of_isLayered {core t : TypeRef} {layers : Nat} (h : IsLayered core layers t) :
    peel t = ((peel core).1 + layers, (peel core).2) := by
  induction h with
  | nil => rfl
  | array _ ih => rw [peel_array, ih, Nat.add_assoc]
  | collection hname _ ih => rw [peel_collection hname, ih, Nat.add_assoc]

/-! ### Payloads -/

/-- The object at the core of a payload is documented with the marks of its layers in front. -/
theorem entries_outcomes_object_start (env : Surroundings) (c : ClassDecl)
    (base path path' : String) :
    Outcome.entries (outcomes env ∅ (.object c base path)) =
      (Outcome.entries (outcomes env ∅ (.object c "" path'))).map (FieldEntry.under base) := by
  have hunder : (Target.object c "" path').under base = .object c base (base ++ path') := by
    rw [Target.under, String.append_empty]
  rw [entries_outcomes_object env c base path (base ++ path'), ← hunder, outcomes_under,
    Outcome.entries_map_under]

/-- A payload with one more layer is documented like a page of payloads. -/
theorem entries_payload_of_peel (env : Surroundings) {t t' : TypeRef}
    (h : peel t' = ((peel t).1 + 1, (peel t).2)) :
    Outcome.entries ((Root.payload t' false).outcomes env) =
      Outcome.entries ((Root.payload t true).outcomes env) := by
  simp only [Root.outcomes, Root.target, h]
  -- The types themselves are only used to report that they have no fields.
  cases (peel t).2.resolve env.index with
  | leaf jsonType =>
    simp only [Resolution.target, outcomes_settled, Outcome.entries_skipped]
  | object c => rfl
  | unresolved typeName => rfl
  | malformed typeName arguments => rfl

/-- A class type that is neither a common leaf nor an enumeration stands for an object. -/
theorem resolve_single_named {index : ClassIndex} {name : String} {arguments : List TypeRef}
    {c : ClassDecl} (hleaf : isCommonLeaf name = false)
    (hresolve : index.resolve? (.named name arguments) = some c) (henum : c.isEnum = false) :
    (Core.single (.named name arguments)).resolve index = .object c := by
  have hget : index.get? name = some c := hresolve
  simp only [Core.resolve, hleaf, hget, henum, Bool.false_eq_true, if_false]

/-- A payload inside of layers is documented as the class at its core. -/
theorem entries_payload_of_isLayered (env : Surroundings) {name : String}
    {arguments : List TypeRef} {layers : Nat} {t : TypeRef} {c : ClassDecl}
    (ht : IsLayered (.named name arguments) layers t) (hcollection : isCollection name = false)
    (hleaf : isCommonLeaf name = false)
    (hresolve : env.index.resolve? (.named name arguments) = some c) (henum : c.isEnum = false)
    (paginated : Bool) :
    Outcome.entries ((Root.payload t paginated).outcomes env) =
      (Outcome.entries ((Root.declared c "").outcomes env)).map
        (FieldEntry.under (rootStart (layers + if paginated then 1 else 0))) := by
  have hpeel : peel t = (layers, .single (.named name arguments)) := by
    rw [peel_of_isLayered ht, peel_named hcollection, Nat.zero_add]
  simp only [Root.outcomes, Root.target, hpeel, resolve_single_named hleaf hresolve henum,
    Resolution.target]
  exact entries_outcomes_object_start ..

end Walk

open Walk

/-- **Payloads that are collections.** A payload that consists of layers of arrays and collections
around an object is documented as the class of that object, with one mark `[].` in front of every
path for each layer, and one more if it is a page of such payloads. Any payload at all is documented
alike as a page, as a list and as an array. -/
theorem Pass.documentRoot_collections :
    (∀ (env : Surroundings) (mode : PayloadMode) (paginated : Bool) (name : String)
      (arguments : List TypeRef) (layers : Nat) (t : TypeRef) (c : ClassDecl)
      (earlier earlier' : List Diagnostic),
      IsLayered (.named name arguments) layers t → isCollection name = false →
        isCommonLeaf name = false → env.index.resolve? (.named name arguments) = some c →
          c.isEnum = false →
            (documentRoot { diagnostics := earlier } env t paginated mode).1.entries =
              (document { diagnostics := earlier' } env c "" mode).1.entries.map
                (FieldEntry.under (rootStart (layers + if paginated then 1 else 0)))) ∧
    ∀ (env : Surroundings) (mode : PayloadMode) (t : TypeRef)
      (earlier earlier' : List Diagnostic),
      (documentRoot { diagnostics := earlier } env (.named "java.util.List" [t]) false mode).1 =
          (documentRoot { diagnostics := earlier' } env t true mode).1 ∧
        (documentRoot { diagnostics := earlier } env (.array t) false mode).1 =
          (documentRoot { diagnostics := earlier' } env t true mode).1 := by
  have hroot (env : Surroundings) (t : TypeRef) (paginated : Bool) (mode : PayloadMode)
      (earlier : List Diagnostic) :
      (documentRoot { diagnostics := earlier } env t paginated mode).1 =
        { mode, entries := Outcome.entries ((Root.payload t paginated).outcomes env) } :=
    congrArg Prod.fst (documentFrom_eq env (.payload t paginated) mode earlier)
  refine ⟨?_, fun env mode t earlier earlier' => ⟨?_, ?_⟩⟩
  · intro env mode paginated name arguments layers t c earlier earlier' ht hcollection hleaf
      hresolve henum
    have hdocument : (document { diagnostics := earlier' } env c "" mode).1 =
        { mode, entries := Outcome.entries ((Root.declared c "").outcomes env) } :=
      congrArg Prod.fst (documentFrom_eq env (.declared c "") mode earlier')
    rw [hroot, hdocument]
    exact entries_payload_of_isLayered env ht hcollection hleaf hresolve henum paginated
  · have hlist : isCollection "java.util.List" = true := by decide +kernel
    rw [hroot, hroot, entries_payload_of_peel env (peel_collection hlist t)]
  · rw [hroot, hroot, entries_payload_of_peel env (peel_array t)]

/-- A comment with answers and marks. -/
private def comment : ClassDecl where
  name := "forum.Comment"
  fields :=
    [{ name := "text", type := .named "java.lang.String" [] },
      { name := "marks", type := .array (.array (.primitive .int)) },
      { name := "answers", type := .named "java.util.Set" [.named "forum.Comment" []] }]

/-- The type of comments. -/
private def commentType : TypeRef :=
  .named "forum.Comment" []

/-- A page of arrays of lists of comments, with the answers to comments cut off. -/
theorem Pass.documentRoot_collections_comments :
    let env : Surroundings :=
      { index := { classes := [comment], nodup_names := by decide }, config := {} }
    let threads : TypeRef := .array (.named "java.util.List" [commentType])
    let documented := documentRoot {} env threads true .responseBody
    IsLayered commentType 2 threads ∧ env.index.resolve? commentType = some comment ∧
      documented.1.entries =
        (document {} env comment "" .responseBody).1.entries.map
          (FieldEntry.under (rootStart 3)) ∧
      (documented.1.entries.map FieldEntry.path, documented.2.diagnostics) =
        (["[].[].[].text", "[].[].[].marks.[]"],
          [.cyclicReference "[].[].[].answers" "forum.Comment"]) ∧
      (documentRoot {} env (.array threads) false .responseBody).1 = documented.1 := by
  intro env threads documented
  have hdocumented : documented = documentRoot {} env threads true .responseBody := rfl
  have hlist : isCollection "java.util.List" = true := by decide +kernel
  have hthreads : IsLayered commentType 2 threads := .array (.collection hlist .nil)
  have hresolve : env.index.resolve? commentType = some comment := by decide +kernel
  have hcollection : isCollection "forum.Comment" = false := by decide +kernel
  have hleaf : isCommonLeaf "forum.Comment" = false := by decide +kernel
  have hpaths : (documented.1.entries.map FieldEntry.path, documented.2.diagnostics) =
      (["[].[].[].text", "[].[].[].marks.[]"],
        [.cyclicReference "[].[].[].answers" "forum.Comment"]) := by
    decide +kernel
  obtain ⟨hcore, hlayers⟩ := documentRoot_collections
  refine ⟨hthreads, hresolve, ?_, hpaths, ?_⟩
  · rw [hdocumented]
    exact hcore env .responseBody true _ _ 2 threads comment [] [] hthreads hcollection hleaf
      hresolve rfl
  · exact (hlayers env .responseBody threads [] []).2

end HandlerDocs
