import HandlerDocs.Proofs.Fields.Comparison

/-!
# Static fields

A configuration may leave static fields out. They are then not looked at in any other way either:
leaving them out comes to the same as deleting them from all classes, even where one of them would
lead back to a class on the path, lie too deep or have a type without a known class.

* `ClassDecl.withoutStatics`, `ClassIndex.withoutStatics`, `Root.withoutStatics` — classes from
  which the static fields are deleted.
* `Pass.documentFrom_withoutStatics` — leaving out and deleting.
-/

namespace HandlerDocs

/-! ### Deleting static fields -/

/-- The class without its static fields. -/
def ClassDecl.withoutStatics (c : ClassDecl) : ClassDecl :=
  { c with fields := c.fields.filter (!·.isStatic) }

/-- The index of the same classes without their static fields. -/
def ClassIndex.withoutStatics (index : ClassIndex) : ClassIndex where
  classes := index.classes.map ClassDecl.withoutStatics
  nodup_names := by
    rw [List.map_map]
    exact index.nodup_names

/-- The configuration in which static fields are left out, or not. -/
def Config.withSkipStatics (config : Config) (skip : Bool) : Config :=
  { config with skipStaticFields := skip }

namespace Walk

/-- The root without static fields. -/
def Root.withoutStatics : Root → Root
  | declared c start => .declared c.withoutStatics start
  | payload type paginated => .payload type paginated

variable {index : ClassIndex} {config : Config}

/-- Leaving static fields out of a class leaves the fields that it has without them. -/
theorem visibleFields_withoutStatics (c : ClassDecl) :
    visibleFields (config.withSkipStatics false) c.withoutStatics =
      visibleFields (config.withSkipStatics true) c := by
  simp [visibleFields, ClassDecl.withoutStatics, Config.withSkipStatics]

/-! ### Two documentations -/

/-- The classes of an index belong to those without static fields, in their order. -/
theorem forall₂_withoutStatics (index : ClassIndex) :
    List.Forall₂ (fun c c' => c' = c.withoutStatics) index.classes
      index.withoutStatics.classes :=
  List.forall₂_map_right_iff.mpr (List.forall₂_same.mpr fun _ _ => rfl)

/-- What a core stands for is compared with what it stands for among classes without static
fields. -/
theorem Core.compares_withoutStatics (index : ClassIndex) (k : Core) :
    (k.resolve index).Compares (fun c c' => c' = c.withoutStatics)
      (fun typeName r' => r' = .unresolved typeName) (k.resolve index.withoutStatics) := by
  refine compares_of_named (fun typeName => ?_) (fun name arguments => ?_) k
  · rfl
  · refine compares_named_of_forall₂ ?_ ?_ (forall₂_withoutStatics index) name rfl
    · rintro c _ rfl
      rfl
    · rintro c _ rfl
      rfl

/-- Targets are compared by their cores: what is settled on one side is settled alike on the
other. -/
theorem compares_target_withoutStatics (env' : Surroundings) (k : Core) (start path : String)
    (ofLeaf : JsonKind → Outcome) :
    ((k.resolve index).target start path ofLeaf).Compares (fun c c' => c' = c.withoutStatics) Eq
      env' ((k.resolve index.withoutStatics).target start path ofLeaf) := by
  refine (k.compares_withoutStatics index).target isPiecewise_eq (fun _ => rfl) ?_
  rintro typeName _ onPath rfl
  rw [Resolution.target, outcomes_settled]

/-- Leaving static fields out compares with deleting them: the outcomes are the same. -/
theorem comparison_withoutStatics (index : ClassIndex) (config : Config) :
    Comparison (fun c c' => c' = c.withoutStatics) Eq ⟨index, config.withSkipStatics true⟩
      ⟨index.withoutStatics, config.withSkipStatics false⟩ where
  toIsPiecewise := isPiecewise_eq
  maxDepth_eq := rfl
  name_eq := by
    rintro c _ rfl
    rfl
  fields := by
    rintro c _ start rfl
    rw [visibleFields_withoutStatics]
    exact List.forall₂_same.mpr fun field _ => compares_target_withoutStatics ..

/-- A root comes to the same outcomes when static fields are left out and when they are deleted. -/
theorem Root.outcomes_withoutStatics (index : ClassIndex) (config : Config) (root : Root) :
    root.outcomes ⟨index, config.withSkipStatics true⟩ =
      root.withoutStatics.outcomes ⟨index.withoutStatics, config.withSkipStatics false⟩ := by
  refine (comparison_withoutStatics index config).related_outcomes ∅ ?_
  cases root with
  | declared c start => exact .object start (trimDots start) rfl
  | payload type paginated => exact compares_target_withoutStatics ..

end Walk

/-- **Static fields.** Leaving static fields out comes to the same entries and diagnostics as
deleting them from the root and from all classes of the index. -/
theorem Pass.documentFrom_withoutStatics (index : ClassIndex) (config : Config) (root : Walk.Root)
    (mode : PayloadMode) (earlier : List Diagnostic) :
    documentFrom { diagnostics := earlier } ⟨index, config.withSkipStatics true⟩ root mode =
      documentFrom { diagnostics := earlier }
        ⟨index.withoutStatics, config.withSkipStatics false⟩ root.withoutStatics mode := by
  rw [documentFrom_eq, documentFrom_eq, Walk.Root.outcomes_withoutStatics]

/-- A basket with a static field that leads back to it. -/
private def basket : ClassDecl where
  name := "store.Basket"
  fields :=
    [{ name := "SHARED", type := .named "store.Basket" [], isStatic := true },
      { name := "items", type := .array (.named "store.Item" []) }]

/-- An item with a static field of a missing class. -/
private def item : ClassDecl where
  name := "store.Item"
  fields :=
    [{ name := "price", type := .primitive .int },
      { name := "LOGGER", type := .named "store.Logger" [], isStatic := true }]

/-- Static fields by which a class is entered again, and of a missing class. -/
theorem Pass.documentFrom_withoutStatics_basket :
    let index : ClassIndex := { classes := [basket, item], nodup_names := by decide }
    let config : Config := {}
    let document (index : ClassIndex) (skip : Bool) (root : Walk.Root) :=
      documentFrom {} ⟨index, config.withSkipStatics skip⟩ root .responseBody
    let root : Walk.Root := .declared basket ""
    document index true root = document index.withoutStatics false root.withoutStatics ∧
      document index true root =
        ({ mode := .responseBody
           entries := [{ path := "items.[].price", jsonType := .number }] }, {}) ∧
      (document index false root).2.diagnostics =
        [.cyclicReference "SHARED" "store.Basket",
          .unresolvedType "items.[].LOGGER" "store.Logger"] :=
  ⟨documentFrom_withoutStatics _ {} (.declared basket "") .responseBody [], by decide +kernel,
    by decide +kernel⟩

end HandlerDocs
