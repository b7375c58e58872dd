import HandlerDocs.Proofs.Fields.Comparison
import HandlerDocs.Proofs.Fields.Passes
import HandlerDocs.Proofs.Program.Slots

/-!
# Documentation by lookup

Documentation asks an index for classes by their names and uses nothing else of it. So indexes that
give the same answers (`ClassIndex.Agrees`) lead to the same documents, and the order in which
classes were inserted is not seen in any of them.

* `Pass.documentFrom_congr`, `Generator.generate?_congr` — documents by the answers of an index.
* `ClassIndex.ofList_lookup` — what an index lists and answers, and that the order does not matter.
-/

namespace HandlerDocs

/-- Two indexes give the same answers. -/
def ClassIndex.Agrees (index index' : ClassIndex) : Prop :=
  ∀ name, index.get? name = index'.get? name

variable {index index' : ClassIndex}

namespace Walk

/-- What a core stands for is decided by the answers of the index. -/
theorem Core.resolve_congr (h : index.Agrees index') (k : Core) :
    k.resolve index = k.resolve index' := by
  match k with
  | .malformed name arguments => rfl
  | .single (.primitive p) => rfl
  | .single (.array element) => rfl
  | .single .wildcard => rfl
  | .single (.named name arguments) => rw [resolve, resolve, h name]

theorem Target.ofField_congr (h : index.Agrees index') (start : String) (field : FieldDecl) :
    ofField index start field = ofField index' start field := by
  rw [ofField, ofField, Core.resolve_congr h]

/-- Documentations by indexes that agree compare: the outcomes are the same. -/
theorem comparison_congr (h : index.Agrees index') (config : Config) :
    Comparison Eq Eq ⟨index, config⟩ ⟨index', config⟩ where
  toIsPiecewise := isPiecewise_eq
  maxDepth_eq := rfl
  name_eq := by
    rintro c _ rfl
    rfl
  fields := by
    rintro c _ start rfl
    refine List.forall₂_same.mpr fun field _ => ?_
    rw [Target.ofField_congr h]
    exact .refl isPiecewise_eq (fun _ => rfl) _

/-- The outcomes of a target are decided by the answers of the index. -/
theorem outcomes_congr (h : index.Agrees index') (config : Config) (onPath : Finset String)
    (t : Target) : outcomes ⟨index, config⟩ onPath t = outcomes ⟨index', config⟩ onPath t :=
  (comparison_congr h config).related_outcomes onPath (.refl isPiecewise_eq (fun _ => rfl) t)

theorem Root.target_congr (h : index.Agrees index') (root : Root) :
    root.target index = root.target index' := by
  cases root with
  | declared c start => rfl
  | payload type paginated => rw [target, target, Core.resolve_congr h]

theorem Root.outcomes_congr (h : index.Agrees index') (config : Config) (root : Root) :
    root.outcomes ⟨index, config⟩ = root.outcomes ⟨index', config⟩ := by
  rw [outcomes, outcomes, Walk.outcomes_congr h, Root.target_congr h]

end Walk

/-- A documentation is decided by the answers of the index. -/
theorem Pass.documentFrom_congr (h : index.Agrees index') (config : Config) (root : Walk.Root)
    (mode : PayloadMode) (earlier : List Diagnostic) :
    documentFrom { diagnostics := earlier } ⟨index, config⟩ root mode =
      documentFrom { diagnostics := earlier } ⟨index', config⟩ root mode := by
  rw [documentFrom_eq, documentFrom_eq, Walk.Root.outcomes_congr h]

theorem Pass.documentRoot_congr (h : index.Agrees index') (config : Config) (type : TypeRef)
    (paginated : Bool) (mode : PayloadMode) :
    documentRoot {} ⟨index, config⟩ type paginated mode =
      documentRoot {} ⟨index', config⟩ type paginated mode :=
  documentFrom_congr h config (.payload type paginated) mode []

/-- The snippet of a handler is decided by the answers of the index. -/
theorem Generator.generate?_congr (h : index.Agrees index') {config : Config}
    (hvalid : config.IsValid) (handler : Handler) :
    generate? ⟨⟨index, config⟩, hvalid⟩ handler = generate? ⟨⟨index', config⟩, hvalid⟩ handler := by
  have hfields (request : RequestDescription) :
      documentFields ⟨index, config⟩ request = documentFields ⟨index', config⟩ request := by
    simp only [documentFields_eq, RequestDescription.bodyAlone, RequestDescription.modelAlone,
      RequestDescription.responseAlone, Pass.documentRoot_congr h config]
  simp only [generate?, hfields]

namespace ClassIndex

/-- **Lookup.** However classes were inserted, an index lists each name once, where it came first,
with the class that was inserted last under it. A name finds the last class with exactly that name,
or else, with a single segment, the last class with the only full name that ends in it. Slots and
marks give the same answers. Classes with distinct names can be inserted in any order: no answer and
no document changes. -/
theorem ofList_lookup (inserts : List ClassDecl) :
    (ofList inserts).classes.map some = (distinctNames inserts).map (lastNamed? inserts) ∧
      (ofList inserts).size = (inserts.map ClassDecl.name).toFinset.card ∧
      (∀ name, (ofList inserts).get? name = lookup? inserts name) ∧
      ((SlotTable.ofList inserts).slots = (ofList inserts).classes ∧
        ∀ name, (SlotTable.ofList inserts).get? name = (ofList inserts).get? name) ∧
      ∀ reordered, inserts.Perm reordered → (inserts.map ClassDecl.name).Nodup →
        (∀ name, (ofList reordered).get? name = (ofList inserts).get? name) ∧
          (∀ type, (ofList reordered).resolve? type = (ofList inserts).resolve? type) ∧
          (∀ config root mode earlier,
            Pass.documentFrom { diagnostics := earlier } ⟨ofList reordered, config⟩ root mode =
              Pass.documentFrom { diagnostics := earlier } ⟨ofList inserts, config⟩ root mode) ∧
          ∀ (config : Config) (hvalid : config.IsValid) (h : Handler),
            Generator.generate? ⟨⟨ofList reordered, config⟩, hvalid⟩ h =
              Generator.generate? ⟨⟨ofList inserts, config⟩, hvalid⟩ h := by
  refine ⟨map_some_classes_ofList inserts, ?_, get?_ofList inserts,
    ⟨?_, SlotTable.get?_ofList inserts⟩, fun reordered hperm hnodup => ?_⟩
  · have hnames : (ofList inserts).classes.map ClassDecl.name = distinctNames inserts :=
      map_name_ofList inserts
    have hset : (inserts.map ClassDecl.name).toFinset = (distinctNames inserts).toFinset := by
      ext name
      rw [List.mem_toFinset, List.mem_toFinset, distinctNames, List.mem_eraseDups]
    rw [hset, ← hnames, List.toFinset_card_of_nodup (ofList inserts).nodup_names, List.length_map,
      size]
  · rw [SlotTable.ofList_eq]
    rfl
  · have hagrees : (ofList reordered).Agrees (ofList inserts) :=
      get?_ofList_eq_of_perm hperm hnodup
    refine ⟨hagrees, fun type => ?_, Pass.documentFrom_congr hagrees, fun config hvalid h =>
      Generator.generate?_congr hagrees hvalid h⟩
    cases type with
    | named name arguments => exact hagrees name
    | primitive p | array element | wildcard => rfl

/-- Two classes with one simple name, and a third one. -/
private def items : List ClassDecl :=
  [.named "shop.Item", .named "store.Item", .enumeration "shop.Kind"]

/-- The three classes can be inserted in any order; the simple name of the first two stays without
an answer. -/
theorem ofList_lookup_items :
    items.Perm items.reverse ∧ (items.map ClassDecl.name).Nodup ∧
      (ofList items.reverse).get? "Item" = none ∧
      (ofList items.reverse).get? "Kind" = some (.enumeration "shop.Kind") ∧
      ∀ name, (ofList items.reverse).get? name = (ofList items).get? name := by
  have hperm : items.Perm items.reverse := (List.reverse_perm items).symm
  have hnodup : (items.map ClassDecl.name).Nodup := by decide +kernel
  obtain ⟨-, -, -, -, hreordered⟩ := ofList_lookup items
  obtain ⟨hget, -, -, -⟩ := hreordered items.reverse hperm hnodup
  refine ⟨hperm, hnodup, ?_, ?_, hget⟩
  · rw [hget]
    decide +kernel
  · rw [hget]
    decide +kernel

end ClassIndex

end HandlerDocs
