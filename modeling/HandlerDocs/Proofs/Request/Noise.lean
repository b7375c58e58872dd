import HandlerDocs.Generation
import HandlerDocs.Proofs.Request.Parameters

/-!
# What a handler is read for

Most of what is written at a handler is not about its request: other annotations, attributes that
nobody reads, parameters without markers. The **essence** of a handler is the handler without them
(`Handler.essence`), with annotations under their reference names. A handler gives the same as its
essence, so handlers that have one essence cannot be told apart.

Reducing an annotation to the attributes that are read changes nothing as long as the keys that are
looked up stay. The key `value` is looked up first, so another key stays only when there is no
`value` (`Annotation.valueOr`).

* `Annotation.attribute?_valueOr` — what is found under `value` or another key.
* `Handler.mapping?_essence`, `Handler.basePath_essence` — the mapping and the path.
* `Assignment.ofParameters_essence` — the parameters.
* `Handler.eq_of_essence_eq` — handlers with one essence.
-/

namespace HandlerDocs

/-! ### Attributes that are kept -/

namespace Attributes

/-- The attributes under some keys. -/
def keep (a : Attributes) (keys : List String) : Attributes where
  pairs := a.pairs.filter fun pair => keys.contains pair.1
  sorted := a.sorted.filter _

/-- Under the keys that are kept there is what was there before, and nothing under others. -/
theorem get?_keep (a : Attributes) (keys : List String) (key : String) :
    (a.keep keys).get? key = if key ∈ keys then a.get? key else none := by
  obtain ⟨pairs, sorted⟩ := a
  simp only [get?, keep]
  clear sorted
  induction pairs with
  | nil => exact (ite_self none).symm
  | cons pair pairs ih =>
    obtain ⟨k, v⟩ := pair
    by_cases hkey : key = k
    · subst hkey
      by_cases hk : key ∈ keys
      · simp [hk]
      · simpa [hk] using ih
    · by_cases hk : k ∈ keys
      · simpa [hk, List.lookup_cons, beq_eq_false_iff_ne.2 hkey] using ih
      · simpa [hk, List.lookup_cons, beq_eq_false_iff_ne.2 hkey] using ih

end Attributes

namespace Annotation

/-- An annotation under its reference name, with the attributes of some keys. -/
def reduced (a : Annotation) (keys : List String) : Annotation where
  name := a.referenceName
  attributes := a.attributes.keep keys

/-- The key `value`, or another one when there is no `value`. -/
def valueOr (a : Annotation) (other : String) : List String :=
  if (a.attribute? "value").isSome then ["value"] else [other]

theorem attribute?_reduced (a : Annotation) (keys : List String) (key : String) :
    (a.reduced keys).attribute? key = if key ∈ keys then a.attribute? key else none :=
  a.attributes.get?_keep keys key

/-- What is found under `value`, or else under another key, is found there when those two keys are
kept as far as they count. -/
theorem attribute?_valueOr {a : Annotation} {other : String} {keys : List String}
    (hkeys : a.valueOr other ⊆ keys) :
    ((a.reduced keys).attribute? "value").or ((a.reduced keys).attribute? other) =
      (a.attribute? "value").or (a.attribute? other) := by
  rw [attribute?_reduced, attribute?_reduced]
  rw [valueOr] at hkeys
  cases hvalue : a.attribute? "value" with
  | some raw =>
    rw [hvalue, Option.isSome_some, if_pos rfl] at hkeys
    rw [if_pos (hkeys (List.mem_singleton_self _)), Option.some_or, Option.some_or]
  | none =>
    rw [hvalue, Option.isSome_none, if_neg Bool.false_ne_true] at hkeys
    rw [if_pos (hkeys (List.mem_singleton_self _)), ite_self]

/-- The path of a mapping annotation is read from the keys that are kept. -/
theorem mappingPath_reduced {a : Annotation} {keys : List String}
    (hkeys : a.valueOr "path" ⊆ keys) : (a.reduced keys).mappingPath = a.mappingPath := by
  rw [mappingPath, mappingPath, attribute?_valueOr hkeys]

end Annotation

/-- The name of a parameter in the request is read from the keys that are kept. -/
theorem Parameter.boundName_reduced (p : Parameter) {marker : Annotation} {keys : List String}
    (hkeys : marker.valueOr "name" ⊆ keys) :
    p.boundName (marker.reduced keys) = p.boundName marker := by
  rw [boundName, boundName, Annotation.attribute?_valueOr hkeys]

/-! ### Recognised names -/

/-- The name of a kind of mapping is a reference name. -/
private theorem referenceName_kind (kind : MappingKind) (attributes : Attributes) :
    ({ name := kind.name, attributes } : Annotation).referenceName = kind.name := by
  unfold Annotation.referenceName
  dsimp only
  cases kind <;> decide +kernel

/-- The name of a marker is a reference name. -/
private theorem referenceName_marker (marker : Marker) (attributes : Attributes) :
    ({ name := marker.name, attributes } : Annotation).referenceName = marker.name := by
  unfold Annotation.referenceName
  dsimp only
  cases marker <;> decide +kernel

theorem MappingKind.eq_name_of_ofName? {name : String} {kind : MappingKind}
    (h : ofName? name = some kind) : name = kind.name := by
  have hfound := List.find?_some h
  exact (beq_iff_eq.mp hfound).symm

theorem Marker.eq_name_of_ofName? {name : String} {marker : Marker}
    (h : ofName? name = some marker) : name = marker.name := by
  have hfound := List.find?_some h
  exact (beq_iff_eq.mp hfound).symm

/-- Under its reference name, a mapping annotation is recognised as before. -/
theorem Annotation.mappingKind?_reduced {a : Annotation} {kind : MappingKind}
    (h : a.mappingKind? = some kind) (keys : List String) :
    (a.reduced keys).mappingKind? = some kind := by
  have hname : a.referenceName = kind.name := MappingKind.eq_name_of_ofName? h
  rw [mappingKind?, reduced, hname, referenceName_kind, MappingKind.ofName?_name]

/-- Under its reference name, a marker is recognised as before. -/
theorem Annotation.ofName?_referenceName_reduced {a : Annotation} {marker : Marker}
    (h : Marker.ofName? a.referenceName = some marker) (keys : List String) :
    Marker.ofName? (a.reduced keys).referenceName = some marker := by
  have hname : a.referenceName = marker.name := Marker.eq_name_of_ofName? h
  rw [reduced, hname, referenceName_marker, Marker.ofName?_name]

/-! ### Essences -/

/-- The attributes that are read of the marker that decides the role of a parameter. -/
def Marker.keys (marker : Marker) (source : Annotation) : List String :=
  match marker with
  | pathVariable | requestParam => source.valueOr "name"
  | requestBody | modelAttribute => []

/-- The attributes that are read of the mapping annotation of a handler. -/
def Annotation.mappingKeys (a : Annotation) : List String :=
  a.valueOr "path" ++ if a.mappingKind? = some .request then ["method"] else []

/-- The markers of a parameter without what is not read of them: of all but the first, nothing but
the names is. -/
def Parameter.reducedMarkers (p : Parameter) : List (Marker × Annotation) :=
  match p.markers with
  | [] => []
  | (marker, source) :: others =>
    (marker, source.reduced (marker.keys source)) :: others.map fun m => (m.1, m.2.reduced [])

/-- A parameter with its markers only. -/
def Parameter.essence (p : Parameter) : Parameter :=
  { p with annotations := p.reducedMarkers.map Prod.snd }

/-- A handler without what is not read: with its first mapping annotation, the first general one of
its class, and the parameters that have markers. -/
def Handler.essence (h : Handler) : Handler where
  name := h.name
  controllerAnnotations :=
    ((h.controllerAnnotations.find? fun a => a.mappingKind? == some .request).map fun a =>
      a.reduced (a.valueOr "path")).toList
  annotations :=
    ((h.annotations.find? fun a => a.mappingKind?.isSome).map fun a =>
      a.reduced a.mappingKeys).toList
  parameters := (h.parameters.filter (·.role ≠ .unmarked)).map Parameter.essence
  returnType := h.returnType

/-! ### Mappings -/

/-- The method of a mapping annotation is read from the keys that are kept. -/
theorem Annotation.methodOfKind?_reduced {a : Annotation} {kind : MappingKind}
    (h : a.mappingKind? = some kind) :
    (a.reduced a.mappingKeys).methodOfKind? kind = a.methodOfKind? kind := by
  cases kind with
  | get | post | put | delete | patch => simp only [methodOfKind?, MappingKind.fixedMethod?]
  | request =>
    have hmethod : "method" ∈ a.mappingKeys := by
      rw [mappingKeys, if_pos h]
      exact List.mem_append_right _ (List.mem_singleton_self _)
    simp only [methodOfKind?, MappingKind.fixedMethod?, requestMethod?, attribute?_reduced,
      if_pos hmethod]

namespace Handler

/-- The mapping of a handler is that of its first mapping annotation. -/
theorem mapping?_eq (h : Handler) :
    h.mapping? = (h.annotations.find? fun a => a.mappingKind?.isSome).bind fun a =>
      a.mappingKind?.bind fun kind => (a.methodOfKind? kind).map (·, a) := by
  have hfirst : (h.annotations.findSome? fun a => a.mappingKind?.map (a, ·)) =
      (h.annotations.find? fun a => a.mappingKind?.isSome).bind fun a =>
        a.mappingKind?.map (a, ·) := by
    induction h.annotations with
    | nil => rfl
    | cons a annotations ih =>
      cases ha : a.mappingKind? with
      | none => simp [ha, ih]
      | some kind => simp [ha]
  rw [mapping?, hfirst]
  cases h.annotations.find? fun a => a.mappingKind?.isSome with
  | none => rfl
  | some a =>
    rw [Option.bind_some, Option.bind_some]
    cases a.mappingKind? <;> rfl

/-- The essence of a handler has its mapping. -/
theorem mapping?_essence (h : Handler) :
    h.essence.mapping? = h.mapping?.map fun (method, a) => (method, a.reduced a.mappingKeys) := by
  rw [mapping?_eq, mapping?_eq, essence]
  cases hfound : h.annotations.find? fun a => a.mappingKind?.isSome with
  | none => rfl
  | some a =>
    have hsome : a.mappingKind?.isSome = true := by
      simpa using List.find?_some hfound
    obtain ⟨kind, hkind⟩ := Option.isSome_iff_exists.mp hsome
    have hreduced := Annotation.mappingKind?_reduced hkind a.mappingKeys
    simp [hkind, hreduced, Annotation.methodOfKind?_reduced hkind, Function.comp_def]

/-- The essence of a handler has its base path. -/
theorem basePath_essence (h : Handler) : h.essence.basePath = h.basePath := by
  rw [basePath, basePath, essence]
  cases hfound : h.controllerAnnotations.find? fun a => a.mappingKind? == some .request with
  | none => rfl
  | some a =>
    have hkind : a.mappingKind? = some .request := by
      simpa using List.find?_some hfound
    have hreduced := Annotation.mappingKind?_reduced hkind (a.valueOr "path")
    simp [hreduced, Annotation.mappingPath_reduced (List.Subset.refl _)]

/-- The essence of a handler has its path. -/
theorem requestPath_essence (h : Handler) (a : Annotation) :
    h.essence.requestPath (a.reduced a.mappingKeys) = h.requestPath a := by
  have hkeys : a.valueOr "path" ⊆ a.mappingKeys := List.subset_append_left _ _
  rw [requestPath, requestPath, basePath_essence, Annotation.mappingPath_reduced hkeys]

/-- The essence of a handler is listed as the handler is. -/
theorem route?_essence (h : Handler) : h.essence.route? = h.route? := by
  rw [route?, route?, mapping?_essence, Option.map_map]
  refine congrArg (Option.map · h.mapping?) (funext fun (method, a) => ?_)
  simp only [Function.comp_apply, requestPath_essence]

end Handler

/-! ### Parameters -/

/-- The essence of a parameter has its markers. -/
theorem Parameter.markers_essence (p : Parameter) : p.essence.markers = p.reducedMarkers := by
  have hmarkers : ∀ m ∈ p.reducedMarkers, Marker.ofName? m.2.referenceName = some m.1 := by
    have hall : ∀ m ∈ p.markers, ∀ keys,
        Marker.ofName? (m.2.reduced keys).referenceName = some m.1 := by
      intro m hm keys
      obtain ⟨a, -, ha⟩ := List.mem_filterMap.mp hm
      obtain ⟨marker, hmarker, rfl⟩ := Option.map_eq_some_iff.mp ha
      exact Annotation.ofName?_referenceName_reduced hmarker keys
    rw [reducedMarkers]
    split
    · exact fun m hm => absurd hm List.not_mem_nil
    · next marker source others heq =>
      rw [heq, List.forall_mem_cons] at hall
      rw [List.forall_mem_cons]
      refine ⟨hall.1 _, fun m hm => ?_⟩
      obtain ⟨other, hother, rfl⟩ := List.mem_map.mp hm
      exact hall.2 other hother []
  rw [markers, essence, List.filterMap_map]
  refine (List.filterMap_congr fun m hm => ?_).trans List.filterMap_some
  rw [Function.comp_apply, hmarkers m hm, Option.map_some]

namespace Assignment

/-- The essence of a parameter is assigned as the parameter is. -/
theorem add_essence (a : Assignment) (p : Parameter) : a.add p.essence = a.add p := by
  rw [add, add, p.markers_essence, Parameter.reducedMarkers]
  cases p.markers with
  | nil => rfl
  | cons m others =>
    obtain ⟨marker, source⟩ := m
    have hreport : a.reportAmbiguity p.essence marker
        (others.map fun m => (m.1, m.2.reduced [])) = a.reportAmbiguity p marker others := by
      cases others with
      | nil => rfl
      | cons other others => simp [reportAmbiguity, Parameter.essence, Function.comp_def]
    have hname : marker = .pathVariable ∨ marker = .requestParam →
        p.essence.boundName (source.reduced (marker.keys source)) = p.boundName source := by
      rintro (rfl | rfl)
      · exact p.boundName_reduced (List.Subset.refl _)
      · exact p.boundName_reduced (List.Subset.refl _)
    dsimp only
    rw [hreport]
    -- Only the roles whose parameters have names of their own look at attributes.
    cases marker with
    | pathVariable =>
      rw [place, place, hname (.inl rfl)]
      rfl
    | requestParam =>
      rw [place, place, hname (.inr rfl)]
      rfl
    | requestBody | modelAttribute => rfl

/-- The essences of the parameters that have markers are assigned as all parameters are. -/
theorem ofParameters_essence (ps : List Parameter) :
    ofParameters ((ps.filter (·.role ≠ .unmarked)).map Parameter.essence) = ofParameters ps := by
  rw [← ofParameters_filter ps, ofParameters, ofParameters, List.foldl_map]
  congr 1
  funext a p
  exact a.add_essence p

end Assignment

/-! ### Handlers -/

namespace Handler

/-- The essence of a handler has its request, with the same reports. -/
theorem describe?_essence (h : Handler) (config : Config) :
    h.essence.describe? config = h.describe? config := by
  rw [describe?, describe?, mapping?_essence, Option.map_map]
  refine congrArg (Option.map · h.mapping?) (funext fun mapping => ?_)
  obtain ⟨method, a⟩ := mapping
  have hparameters : Assignment.ofParameters h.essence.parameters =
      Assignment.ofParameters h.parameters := Assignment.ofParameters_essence h.parameters
  simp only [Function.comp_apply, requestPath_essence, hparameters]
  rfl

/-- The snippet of a handler, given how the payloads of a request are documented. -/
def snippetWith? (h : Handler) (config : Config)
    (document : RequestDescription → PayloadFields × List Diagnostic) : Option Snippet :=
  (h.describe? config).map fun (request, diagnostics) =>
    let (fields, more) := document request
    { request
      text := assemble config request fields
      diagnostics := diagnostics ++ more }

end Handler

theorem Generator.generate?_eq_snippetWith? (g : Generator) (h : Handler) :
    g.generate? h = h.snippetWith? g.config (documentFields g.toSurroundings) :=
  rfl

/-- **Noise has no influence.** Handlers that have one essence are listed alike, and they have the
same request with the same reports and the same snippet, whatever the configuration and the classes
are, and in whatever way payloads are documented. -/
theorem Handler.eq_of_essence_eq {h h' : Handler} (heq : h.essence = h'.essence) :
    h.route? = h'.route? ∧
      (∀ config, h.describe? config = h'.describe? config) ∧
      (∀ g : Generator, g.generate? h = g.generate? h') ∧
      ∀ (config : Config) (document : RequestDescription → PayloadFields × List Diagnostic),
        h.snippetWith? config document = h'.snippetWith? config document := by
  have hdescribe (config : Config) : h.describe? config = h'.describe? config := by
    rw [← h.describe?_essence, heq, h'.describe?_essence]
  have hsnippet (config : Config)
      (document : RequestDescription → PayloadFields × List Diagnostic) :
      h.snippetWith? config document = h'.snippetWith? config document := by
    rw [snippetWith?, snippetWith?, hdescribe]
  refine ⟨?_, hdescribe, fun g => ?_, hsnippet⟩
  · rw [← h.route?_essence, heq, h'.route?_essence]
  · rw [Generator.generate?_eq_snippetWith?, Generator.generate?_eq_snippetWith?, hsnippet]

/-- A handler with much around its request. -/
private def replaceItem : Handler where
  name := "replaceItem"
  controllerAnnotations :=
    [{ name := "RestController" },
      { name := "web.RequestMapping",
        attributes := .ofList [("path", "\"/shops\""), ("method", "RequestMethod.GET")] },
      { name := "RequestMapping", attributes := .ofList [("value", "\"/stores\"")] }]
  annotations :=
    [{ name := "Transactional", attributes := .ofList [("value", "\"items\"")] },
      { name := "@RequestMapping",
        attributes := .ofList
          [("value", "\"/{id}\""), ("path", "\"/{key}\""),
            ("method", "RequestMethod.PUT")] },
      { name := "GetMapping" }]
  parameters :=
    [{ name := "principal", type := .named "Principal" [] },
      { name := "id", type := .primitive .long,
        annotations :=
          [{ name := "Positive" },
            { name := "PathVariable",
              attributes := .ofList [("required", "true"), ("name", "\"id\"")] }] },
      { name := "item", type := .named "Item" [],
        annotations :=
          [{ name := "web.RequestBody", attributes := .ofList [("value", "\"body\"")] },
            { name := "Valid" },
            { name := "RequestParam", attributes := .ofList [("name", "\"item\"")] }] }]
  returnType := some (.named "Item" [])

/-- The handler `replaceItem` with nothing around its request. -/
private def replaceItemAlone : Handler where
  name := "replaceItem"
  controllerAnnotations :=
    [{ name := "RequestMapping", attributes := .ofList [("path", "\"/shops\"")] }]
  annotations :=
    [{ name := "RequestMapping",
       attributes := .ofList
         [("value", "\"/{id}\""), ("method", "RequestMethod.PUT")] }]
  parameters :=
    [{ name := "id", type := .primitive .long,
       annotations :=
         [{ name := "@PathVariable", attributes := .ofList [("name", "\"id\"")] }] },
      { name := "item", type := .named "Item" [],
        annotations := [{ name := "RequestBody" }, { name := "RequestParam" }] }]
  returnType := some (.named "Item" [])

/-- Both ways to write the handler `replaceItem` have one essence, and so one request. -/
theorem Handler.eq_of_essence_eq_replaceItem :
    replaceItem.essence = replaceItemAlone.essence ∧ replaceItem ≠ replaceItemAlone ∧
      replaceItem.route? = some (.put, "/shops/{id}") ∧
      replaceItem.route? = replaceItemAlone.route? ∧
      ∀ config, replaceItem.describe? config = replaceItemAlone.describe? config := by
  have heq : replaceItem.essence = replaceItemAlone.essence := by decide +kernel
  obtain ⟨hroute, hdescribe, -, -⟩ := Handler.eq_of_essence_eq heq
  exact ⟨heq, by decide +kernel, by decide +kernel, hroute, hdescribe⟩

end HandlerDocs
