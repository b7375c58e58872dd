import HandlerDocs.Generation
import HandlerDocs.Proofs.Fields.Unfolding

/-!
# Several payloads in one pass

The payloads of a handler are documented one after the other in one pass, which carries its stack
and its diagnostics from each of them to the next. None of them notices: between two documentations
the stack is empty (`documentAll_eq`), and what was reported before is only something in front of
what is reported now (`documentFrom_eq_alone`). So whatever was documented before, a payload comes
to what it comes to in a pass of its own (`Call.alone`).

* `Pass.documentAll_eq` — every sequence of documentations.
* `Generator.documentFields_eq` — the three payloads of a request.
* `Pass.payloads_independent` — both, up to the snippets of handlers.
-/

namespace HandlerDocs

namespace Pass

/-! ### Sequences of documentations -/

/-- One of the documentations in a pass. -/
structure Call where
  /-- Where the documentation starts. -/
  root : Walk.Root
  /-- The payload that is documented. -/
  mode : PayloadMode

/-- What a documentation comes to in a pass of its own. -/
def Call.alone (call : Call) (env : Surroundings) : FieldSet × Pass :=
  documentFrom {} env call.root call.mode

/-- Documents one after the other in a pass. -/
def documentAll (pass : Pass) (env : Surroundings) : List Call → List FieldSet × Pass
  | [] => ([], pass)
  | call :: calls =>
    let (set, pass) := pass.documentFrom env call.root call.mode
    let (sets, pass) := documentAll pass env calls
    (set :: sets, pass)

/-- The diagnostics of a pass of its own are those of the outcomes. -/
theorem Call.alone_eq (call : Call) (env : Surroundings) :
    call.alone env =
      ({ mode := call.mode, entries := Outcome.entries (call.root.outcomes env) },
        { diagnostics := Outcome.diagnostics (call.root.outcomes env) }) := by
  rw [alone, documentFrom_eq, List.nil_append]

/-- Behind earlier diagnostics, a documentation comes to what it comes to in a pass of its own, and
leaves no class on the stack. -/
theorem documentFrom_eq_alone (env : Surroundings) (call : Call) (earlier : List Diagnostic) :
    documentFrom { diagnostics := earlier } env call.root call.mode =
      ((call.alone env).1, { diagnostics := earlier ++ (call.alone env).2.diagnostics }) := by
  rw [documentFrom_eq, call.alone_eq]

/-- A sequence of documentations comes to what each of them comes to in a pass of its own. -/
theorem documentAll_eq (env : Surroundings) (calls : List Call) (earlier : List Diagnostic) :
    documentAll { diagnostics := earlier } env calls =
      (calls.map fun call => (call.alone env).1,
        { diagnostics :=
            earlier ++ calls.flatMap fun call => (call.alone env).2.diagnostics }) := by
  induction calls generalizing earlier with
  | nil => rw [documentAll, List.map_nil, List.flatMap_nil, List.append_nil]
  | cons call calls ih =>
    rw [documentAll, documentFrom_eq_alone]
    dsimp only
    rw [ih, List.map_cons, List.flatMap_cons, List.append_assoc]

/-- A payload that may be missing is documented behind earlier diagnostics as in a pass of its own,
and comes to nothing if it is missing. -/
theorem documentOptional_eq {α : Type} (env : Surroundings) (payload : Option α)
    (type : α → TypeRef × Bool) (mode : PayloadMode) (earlier : List Diagnostic) :
    documentOptional { diagnostics := earlier } env (payload.map type) mode =
      match payload with
      | some p =>
        let alone := documentRoot {} env (type p).1 (type p).2 mode
        (alone.1, { diagnostics := earlier ++ alone.2.diagnostics })
      | none => ({ mode }, { diagnostics := earlier }) := by
  cases payload with
  | none => rfl
  | some p => exact documentFrom_eq_alone env ⟨.payload (type p).1 (type p).2, mode⟩ earlier

end Pass

/-! ### The payloads of a request -/

namespace RequestDescription

variable (request : RequestDescription) (env : Surroundings)

/-- What the body of a request comes to in a pass of its own. -/
def bodyAlone : FieldSet × Pass :=
  match request.body with
  | some p => Pass.documentRoot {} env p.type false .requestBody
  | none => ({ mode := .requestBody }, {})

/-- What the model attribute of a request comes to in a pass of its own. -/
def modelAlone : FieldSet × Pass :=
  match request.modelAttribute with
  | some p => Pass.documentRoot {} env p.type false .modelAttribute
  | none => ({ mode := .modelAttribute }, {})

/-- What the payload of the response comes to in a pass of its own. -/
def responseAlone : FieldSet × Pass :=
  match request.response with
  | some r => Pass.documentRoot {} env r.type r.paginated .responseBody
  | none => ({ mode := .responseBody }, {})

end RequestDescription

/-- The payloads of a request are documented as in passes of their own, and reported about in their
order. -/
theorem Generator.documentFields_eq (env : Surroundings) (request : RequestDescription) :
    documentFields env request =
      ({ requestBody := (request.bodyAlone env).1
         modelAttribute := (request.modelAlone env).1
         responseBody := (request.responseAlone env).1 },
        (request.bodyAlone env).2.diagnostics ++ (request.modelAlone env).2.diagnostics ++
          (request.responseAlone env).2.diagnostics) := by
  have hbody : Pass.documentOptional {} env (request.body.map fun p => (p.type, false))
      .requestBody = ((request.bodyAlone env).1,
        { diagnostics := (request.bodyAlone env).2.diagnostics }) := by
    rw [Pass.documentOptional_eq env request.body _ _ [], RequestDescription.bodyAlone]
    cases request.body <;> rfl
  have hmodel (earlier : List Diagnostic) :
      Pass.documentOptional { diagnostics := earlier } env
        (request.modelAttribute.map fun p => (p.type, false)) .modelAttribute =
      ((request.modelAlone env).1,
        { diagnostics := earlier ++ (request.modelAlone env).2.diagnostics }) := by
    rw [Pass.documentOptional_eq, RequestDescription.modelAlone]
    cases request.modelAttribute <;> simp
  have hresponse (earlier : List Diagnostic) :
      Pass.documentOptional { diagnostics := earlier } env
        (request.response.map fun r => (r.type, r.paginated)) .responseBody =
      ((request.responseAlone env).1,
        { diagnostics := earlier ++ (request.responseAlone env).2.diagnostics }) := by
    rw [Pass.documentOptional_eq, RequestDescription.responseAlone]
    cases request.response <;> simp
  rw [documentFields]
  simp only [hbody, hmodel, hresponse]

/-- **Payloads are independent.** In a sequence of documentations, each one comes to what it comes
to in a pass of its own, the diagnostics follow each other, and no class is left on the stack,
neither in the end nor before any of them. So the snippet of a handler has the entries of each
payload by itself, and it reports about the request, then about the body, the model attribute and
the response, each by itself as far as it is there. -/
theorem Pass.payloads_independent :
    (∀ (env : Surroundings) (calls : List Call),
      documentAll {} env calls =
        (calls.map fun call => (call.alone env).1,
          { enclosing := []
            diagnostics := calls.flatMap fun call => (call.alone env).2.diagnostics })) ∧
    (∀ (env : Surroundings) (before : List Call) (call : Call),
      let pass := (documentAll {} env before).2
      pass.enclosing = [] ∧
        pass.documentFrom env call.root call.mode =
          ((call.alone env).1,
            { enclosing := []
              diagnostics := pass.diagnostics ++ (call.alone env).2.diagnostics })) ∧
    ∀ (g : Generator) (h : Handler),
      g.generate? h = (h.describe? g.config).map fun (request, reported) =>
        let body := request.bodyAlone g.toSurroundings
        let model := request.modelAlone g.toSurroundings
        let response := request.responseAlone g.toSurroundings
        { request
          text := assemble g.config request
            { requestBody := body.1, modelAttribute := model.1, responseBody := response.1 }
          diagnostics := reported ++ (body.2.diagnostics ++ model.2.diagnostics ++
            response.2.diagnostics) } := by
  refine ⟨fun env calls => documentAll_eq env calls [], fun env before call => ?_, fun g h => ?_⟩
  · rw [documentAll_eq env before []]
    exact ⟨rfl, documentFrom_eq_alone env call _⟩
  · rw [Generator.generate?]
    refine congrArg (Option.map · (h.describe? g.config)) (funext fun (request, reported) => ?_)
    dsimp only
    rw [Generator.documentFields_eq]

/-- A drawer with another one inside. -/
private def drawer : ClassDecl where
  name := "office.Drawer"
  fields :=
    [{ name := "label", type := .named "java.lang.String" [] },
      { name := "inner", type := .named "office.Drawer" [] }]

/-- A filter with a field of a missing class. -/
private def filter : ClassDecl where
  name := "office.Filter"
  fields :=
    [{ name := "year", type := .primitive .int },
      { name := "author", type := .named "office.Author" [] }]

/-- A handler with a body, a model attribute with a second marker, and a page of drawers. -/
private def search : Handler where
  name := "search"
  annotations := [{ name := "PostMapping" }]
  parameters :=
    [{ name := "drawer", type := .named "office.Drawer" [],
       annotations := [{ name := "RequestBody" }] },
      { name := "filter", type := .named "office.Filter" [],
        annotations := [{ name := "ModelAttribute" }, { name := "RequestParam" }] }]
  returnType := some (.named "Page" [.named "office.Drawer" []])

/-- A handler of which the request, the body, the model attribute and the response all are reported
about. -/
theorem Pass.payloads_independent_search :
    let index : ClassIndex := { classes := [drawer, filter], nodup_names := by decide }
    let g : Generator := { index, config := {}, config_isValid := Config.isValid_default }
    let drawerType : TypeRef := .named "office.Drawer" []
    let filterType : TypeRef := .named "office.Filter" []
    ∃ snippet, g.generate? search = some snippet ∧
      snippet.diagnostics =
        .ambiguousParameterRole "filter" "ModelAttribute" ["RequestParam"] ::
          ((documentRoot {} g.toSurroundings drawerType false .requestBody).2.diagnostics ++
            (documentRoot {} g.toSurroundings filterType false .modelAttribute).2.diagnostics ++
            (documentRoot {} g.toSurroundings drawerType true .responseBody).2.diagnostics) ∧
      snippet.diagnostics.tail =
        [.cyclicReference "inner" "office.Drawer", .unresolvedType "author" "office.Author",
          .cyclicReference "[].inner" "office.Drawer"] ∧
      snippet.text = assemble g.config snippet.request
        { requestBody := (documentRoot {} g.toSurroundings drawerType false .requestBody).1
          modelAttribute := (documentRoot {} g.toSurroundings filterType false .modelAttribute).1
          responseBody := (documentRoot {} g.toSurroundings drawerType true .responseBody).1 } := by
  intro index g drawerType filterType
  let request : RequestDescription :=
    { methodName := "search"
      httpMethod := .post
      path := search.requestPath { name := "PostMapping" }
      body := some ⟨"drawer", "drawer", drawerType, .body⟩
      modelAttribute := some ⟨"filter", "filter", filterType, .modelAttribute⟩
      response := some ⟨drawerType, true⟩ }
  have hdescribe : search.describe? g.config =
      some (request, [.ambiguousParameterRole "filter" "ModelAttribute" ["RequestParam"]]) := by
    decide +kernel
  have hgenerate := payloads_independent.2.2 g search
  rw [hdescribe, Option.map_some] at hgenerate
  exact ⟨_, hgenerate, rfl, by decide +kernel, rfl⟩

end HandlerDocs
