import HandlerDocs.Proofs.Fields.Reports
import HandlerDocs.Proofs.Text.Ends

/-!
# A walk reports its outcomes

What a class comes to is one list of `outcomes`, which has no state, and it is what every walk of
the class reports. The position of a type is replaced by the marks of its layers first
(`type_eq_settle`), so that a field is walked by walking its target; then the stack of the walk is
matched with the set of the names on the path.

* `reports_walk` — one target: a leaf, something that is left out, or the fields of an object.
* `reports_classDecl` — a class below others: the stack of the walk is the set `onPath` of the
  outcomes, and the room left is what the depth limit leaves of it.
* `reports_root`, `documentFrom_eq`, `documentFrom_eq_watched` — every root.
* `document_eq_outcomes` — a class with what the paths of its fields start with.
-/

namespace HandlerDocs

namespace Walk

variable {m : Type → Type} {σ : Type} [Monad m] [MonadStateOf Pass m] [HoldsPass m σ]
variable {env : Surroundings} {enclosing : List String}

/-! ### Targets -/

/-- What is done for a target: a leaf is found, something else is left out, or an object is
entered. -/
def Target.walk (enter : Entering m) : Target → m (List FieldEntry)
  | .settled (.leaf entry) => return [entry]
  | .settled (.skipped d) => skip d
  | .object c start path => enter c start path

/-- A target reports its outcomes, given that objects do. -/
theorem reports_walk {enter : Entering m} {onPath : Finset String} (hstack : IsStack env enclosing)
    (h : ∀ c start path,
      Reports env (enter c start path) enclosing (outcomes env onPath (.object c start path)))
    (t : Target) : Reports env (t.walk enter) enclosing (outcomes env onPath t) := by
  match t with
  | .settled (.leaf entry) =>
    rw [outcomes_settled]
    exact Reports.leaf env enclosing entry
  | .settled (.skipped d) =>
    rw [outcomes_settled]
    exact Reports.skip hstack d
  | .object c start path => exact h c start path

/-! ### Types -/

/-- How many layers a position has behind it that are not marked in its path yet. -/
def Position.layers : Position → Nat
  | field => 0
  | element => 1

private theorem elementPath_append_marks (path : String) (position : Position) (layers : Nat) :
    position.elementPath path ++ marks layers = path ++ marks (layers + position.layers) := by
  cases position with
  | field => rfl
  | element => simp [Position.elementPath, Position.layers, marks, String.append_assoc]

private theorem objectStart_eq (path : String) (position : Position) :
    position.objectStart path = path ++ marks position.layers ++ "." := by
  cases position with
  | field => simp [Position.objectStart, Position.layers, marks]
  | element => simp [Position.objectStart, Position.layers, marks, String.append_assoc]

private theorem append_marks_layers_sub_one (path : String) (position : Position) :
    path ++ marks (position.layers - 1) = path := by
  cases position <;> exact String.append_empty

/-- Walks a core. The paths of the fields of an object start with `start`. -/
def settle (index : ClassIndex) (enter : Entering m) (core : Core) (start path : String) :
    m (List FieldEntry) :=
  ((core.resolve index).target start path fun jsonType => .leaf { path, jsonType }).walk enter

/-- A class type that is no collection is its own core. -/
private theorem named_eq_settle (index : ClassIndex) (enter : Entering m) (name : String)
    (arguments : List TypeRef) (path : String) (position : Position) :
    (if isCommonLeaf name then leaf path (.ofName name)
      else object index enter (.named name arguments) path position) =
      settle index enter (.single (.named name arguments))
        (path ++ marks position.layers ++ ".") path := by
  simp only [settle, Core.resolve, object, ClassIndex.resolve?, objectStart_eq]
  by_cases hleaf : isCommonLeaf name = true
  · rw [if_pos hleaf, if_pos hleaf]
    rfl
  · rw [if_neg hleaf, if_neg hleaf]
    cases index.get? name with
    | none => rfl
    | some c => by_cases henum : c.isEnum = true <;> simp only [henum] <;> rfl

/-- What is marked behind the path of the elements is marked behind the path of the whole. -/
private theorem settle_elementPath (index : ClassIndex) (enter : Entering m) (core : Core)
    (path : String) (position : Position) (layers : Nat) :
    settle index enter core (position.elementPath path ++ marks (layers + 1) ++ ".")
        (position.elementPath path ++ marks (layers + 1 - 1)) =
      settle index enter core (path ++ marks (layers + 1 + position.layers) ++ ".")
        (path ++ marks (layers + 1 + position.layers - 1)) := by
  -- The layer that is taken off was not marked at `position`, and is marked now.
  have h : layers + 1 + position.layers - 1 = layers + position.layers := by omega
  rw [elementPath_append_marks, elementPath_append_marks, Nat.add_sub_cancel, h]

private theorem isCommonLeaf_of_isCollection {name : String} (h : isCollection name = true) :
    isCommonLeaf name = false := by
  by_contra hleaf
  rw [not_isCollection_of_isCommonLeaf (by simpa using hleaf)] at h
  exact Bool.false_ne_true h

/-- A type is walked by walking its core behind the marks of its layers. -/
theorem type_eq_settle (index : ClassIndex) (enter : Entering m) (t : TypeRef) (path : String)
    (position : Position) :
    type index enter t path position =
      settle index enter (peel t).2 (path ++ marks ((peel t).1 + position.layers) ++ ".")
        (path ++ marks ((peel t).1 + position.layers - 1)) := by
  -- Only collections and arrays recurse; what they leave to their element is an element position.
  fun_induction peel t generalizing path position with
  | case1 element ih =>
    rw [type, ih]
    exact settle_elementPath index enter _ path position _
  | case2 name element h ih =>
    rw [type, isCommonLeaf_of_isCollection h, if_neg Bool.false_ne_true, if_pos h, ih]
    exact settle_elementPath index enter _ path position _
  | case3 name element h =>
    rw [type, if_neg h, Nat.zero_add, append_marks_layers_sub_one]
    exact named_eq_settle index enter name [element] path position
  | case4 name arguments hn h =>
    rw [type, isCommonLeaf_of_isCollection h, if_neg Bool.false_ne_true, if_pos h, Nat.zero_add,
      append_marks_layers_sub_one]
    · rfl
    · exact hn
  | case5 name arguments hn h =>
    rw [type, if_neg h, Nat.zero_add, append_marks_layers_sub_one]
    · exact named_eq_settle index enter name arguments path position
    · exact hn
  | case6 t ha hs hn =>
    rw [Nat.zero_add, append_marks_layers_sub_one]
    cases t with
    | primitive p => rfl
    | wildcard => rfl
    | array element => exact absurd rfl (ha element)
    | named name arguments => exact absurd rfl (hn name arguments)

/-- A field is walked by walking its target. -/
theorem type_field_eq (index : ClassIndex) (enter : Entering m) (start : String)
    (field : FieldDecl) :
    type index enter field.type (start ++ field.name) .field =
      (Target.ofField index start field).walk enter :=
  type_eq_settle index enter field.type (start ++ field.name) .field

/-! ### Classes -/

/-- Entering a class asks the stack first. -/
private theorem reports_classDecl_of_stack {room : Nat} {c : ClassDecl} {start path : String}
    {os : List Outcome}
    (h : Reports env (if c.name ∈ enclosing then skip (.cyclicReference path c.name)
      else
        match room with
        | 0 => skip (.depthLimitExceeded path c.name env.config.maxDepth)
        | room + 1 => inside c.name
          (fields env.index (classDecl env room) start (visibleFields env.config c)) : m _)
      enclosing os) :
    Reports env (classDecl env room c start path : m _) enclosing os := by
  intro s earlier hs
  obtain ⟨passes, hrun, hafter⟩ := h s earlier hs
  refine ⟨passes, ?_, hafter⟩
  rw [← hrun]
  cases room <;> simp [classDecl, hs]

/-- A class reports its outcomes below the classes of the stack. -/
theorem reports_classDecl (room : Nat) (c : ClassDecl) (start path : String)
    (enclosing : List String) (hstack : IsStack env enclosing)
    (hroom : room = env.config.maxDepth - enclosing.length) :
    Reports env (classDecl env room c start path : m _) enclosing
      (outcomes env enclosing.toFinset (.object c start path)) := by
  -- The room shrinks by one with every class, so it runs out exactly when the stack is full.
  induction room generalizing c start path enclosing with
  | zero =>
    refine reports_classDecl_of_stack ?_
    have hfull : ¬ enclosing.toFinset.card < env.config.maxDepth := by
      rw [List.toFinset_card_of_nodup hstack.nodup]
      omega
    rw [outcomes]
    simp only [List.mem_toFinset, if_neg hfull]
    split
    · exact Reports.skip hstack _
    · exact Reports.skip hstack _
  | succ room ih =>
    refine reports_classDecl_of_stack ?_
    have hfree : enclosing.toFinset.card < env.config.maxDepth := by
      rw [List.toFinset_card_of_nodup hstack.nodup]
      omega
    rw [outcomes]
    simp only [List.mem_toFinset, if_pos hfree]
    split
    · exact Reports.skip hstack _
    · rename_i hnew
      have hinside : IsStack env (c.name :: enclosing) :=
        ⟨List.nodup_cons.mpr ⟨hnew, hstack.nodup⟩, by rw [List.length_cons]; omega⟩
      refine Reports.inside hstack hinside (Reports.fields (fun field => ?_) _)
      rw [type_field_eq, ← List.toFinset_cons]
      refine reports_walk hinside (fun d start' path' => ?_) _
      exact ih d start' path' _ hinside (by rw [List.length_cons]; omega)

/-- Enters a class with the room that the depth limit leaves. -/
def enterWithin (env : Surroundings) : Entering m := fun c start path => do
  let room := env.config.maxDepth - (← get).enclosing.length
  classDecl env room c start path

/-- A class with nothing around it reports its outcomes. -/
theorem reports_enterWithin (env : Surroundings) (c : ClassDecl) (start path : String) :
    Reports env (enterWithin env c start path : m _) []
      (outcomes env ∅ (.object c start path)) := by
  intro s earlier hs
  obtain ⟨passes, hrun, hafter⟩ :=
    reports_classDecl env.config.maxDepth c start path [] (isStack_nil env) rfl s earlier hs
  refine ⟨passes, ?_, hafter⟩
  simpa [enterWithin, hs] using hrun

/-! ### Roots -/

/-- The core of a payload type is documented by walking the target of the payload. -/
private theorem core_eq_walk (env : Surroundings) (payload : TypeRef) (start : String) (k : Core) :
    (core env payload start k : m _) =
      ((k.resolve env.index).target start (trimDots start)
        fun _ => .skipped (.scalarPayload payload.text)).walk (enterWithin env) := by
  match k with
  | .malformed name arguments => rfl
  | .single (.primitive p) => rfl
  | .single (.array element) => rfl
  | .single .wildcard => rfl
  | .single (.named name arguments) =>
    simp only [core, Core.resolve]
    by_cases hleaf : isCommonLeaf name = true
    · rw [if_pos hleaf, if_pos hleaf]
      rfl
    · rw [if_neg hleaf, if_neg hleaf]
      cases env.index.get? name with
      | none => rfl
      | some c => by_cases henum : c.isEnum = true <;> simp only [henum] <;> rfl

/-- A root reports its outcomes. -/
theorem reports_root (env : Surroundings) (root : Root) :
    Reports env (root.walk env : m _) [] (root.outcomes env) := by
  cases root with
  | declared c start => exact reports_enterWithin env c start (trimDots start)
  | payload type paginated =>
    rw [Root.walk, documentRoot, core_eq_walk]
    exact reports_walk (isStack_nil env) (reports_enterWithin env) _

end Walk

namespace Pass

/-- What a documentation adds to a pass in which no class is being walked: the entries and the
diagnostics are the two projections of the outcomes. -/
theorem documentFrom_eq (env : Surroundings) (root : Walk.Root) (mode : PayloadMode)
    (earlier : List Diagnostic) :
    documentFrom { diagnostics := earlier } env root mode =
      ({ mode, entries := Outcome.entries (root.outcomes env) },
        { diagnostics := earlier ++ Outcome.diagnostics (root.outcomes env) }) := by
  have hrun := (Walk.reports_root env root).run_eq earlier
  rw [documentFrom_eq_run]
  exact congrArg (fun r : List FieldEntry × Pass => (({ mode, entries := r.1 } : FieldSet), r.2))
    hrun

/-- A documentation that is watched returns the same, and the stack of every pass that it sets is
one. -/
theorem documentFrom_eq_watched (env : Surroundings) (root : Walk.Root) (mode : PayloadMode)
    (earlier : List Diagnostic) :
    let watched : List FieldEntry × Walk.Watch :=
      (root.walk env : Walk.WatchedWalk _).run { pass := { diagnostics := earlier } }
    documentFrom { diagnostics := earlier } env root mode =
        ({ mode, entries := watched.1 }, watched.2.pass) ∧
      ∀ pass ∈ watched.2.seen, Walk.IsStack env pass.enclosing := by
  obtain ⟨hentries, hpass, hseen⟩ := (Walk.reports_root env root).run_watched earlier
  refine ⟨?_, hseen⟩
  rw [documentFrom_eq]
  exact (congrArg₂ (fun entries pass => (({ mode, entries } : FieldSet), pass)) hentries hpass).symm

/-- **The unfolding of a class.** Documenting a class finds the entries of its outcomes and adds
their diagnostics to the earlier ones, and no class stays on the stack. The outcomes are one list
that is unfolded field by field as soon as a class may be entered at all: the declared fields in
their order, but for the static ones where the configuration leaves them out. Each of the outcomes
is either an entry or a diagnostic. -/
theorem document_eq_outcomes (env : Surroundings) (c : ClassDecl) (start : String)
    (mode : PayloadMode) (earlier : List Diagnostic) :
    let path := String.ofList (start.toList.rdropWhile (· == '.'))
    let os := Walk.outcomes env ∅ (.object c start path)
    document { diagnostics := earlier } env c start mode =
        ({ mode, entries := Outcome.entries os },
          { diagnostics := earlier ++ Outcome.diagnostics os }) ∧
      (Outcome.entries os).length + (Outcome.diagnostics os).length = os.length ∧
      (0 < env.config.maxDepth →
        os = (c.fields.filter fun field => !(field.isStatic && env.config.skipStaticFields)).flatMap
          fun field => Walk.outcomes env {c.name} (.ofField env.index start field)) := by
  refine ⟨documentFrom_eq env (.declared c start) mode earlier,
    Outcome.length_entries_add_length_diagnostics _, fun hdepth => ?_⟩
  rw [Walk.outcomes, if_neg (Finset.notMem_empty _), Finset.card_empty, if_pos hdepth,
    insert_empty_eq]

/-- A person with nested tags, a list of nothing, a missing employer, friends who are persons again,
and a home. -/
private def person : ClassDecl where
  name := "town.Person"
  fields :=
    [{ name := "COUNT", type := .primitive .int, isStatic := true },
      { name := "name", type := .named "java.lang.String" [] },
      { name := "mood", type := .named "town.Mood" [] },
      { name := "tags", type := .named "java.util.List" [.array (.primitive .int)] },
      { name := "notes", type := .named "java.util.List" [] },
      { name := "employer", type := .named "town.Employer" [] },
      { name := "friends", type := .array (.named "town.Person" []) },
      { name := "home", type := .named "town.Home" [] }]

/-- The moods of a person. -/
private def mood : ClassDecl where
  name := "town.Mood"
  kind := .enumeration

/-- A home, which leads on to its landlord. -/
private def home : ClassDecl where
  name := "town.Home"
  fields :=
    [{ name := "number", type := .primitive .int },
      { name := "landlord", type := .named "town.Landlord" [] }]

/-- The landlord of a home. -/
private def landlord : ClassDecl where
  name := "town.Landlord"
  fields := [{ name := "name", type := .named "java.lang.String" [] }]

/-- A class with a field for every kind of outcome: a static field, nested collections, an
enumeration, a collection of nothing, a missing class, a cycle and a class that lies too deep. -/
theorem document_eq_outcomes_person :
    let env : Surroundings :=
      { index := { classes := [person, mood, home, landlord], nodup_names := by decide }
        config := { maxDepth := 2 } }
    let os := Walk.outcomes env ∅ (.object person "body." "body")
    0 < env.config.maxDepth ∧
      Outcome.entries os =
        [{ path := "body.name", jsonType := .string },
          { path := "body.mood", jsonType := .string },
          { path := "body.tags.[]", jsonType := .number },
          { path := "body.home.number", jsonType := .number }] ∧
      Outcome.diagnostics os =
        [.malformedCollection "body.notes" "java.util.List" 0,
          .unresolvedType "body.employer" "town.Employer",
          .cyclicReference "body.friends" "town.Person",
          .depthLimitExceeded "body.home.landlord" "town.Landlord" 2] ∧
      os.length = 8 ∧
      os = (person.fields.drop 1).flatMap fun field =>
        Walk.outcomes env {"town.Person"} (.ofField env.index "body." field) := by
  intro env os
  obtain ⟨hdocument, hlength, hfields⟩ :=
    document_eq_outcomes env person "body." .responseBody []
  have hpath : String.ofList ("body.".toList.rdropWhile (· == '.')) = "body" := by decide +kernel
  rw [hpath] at hdocument hlength hfields
  have hrun : document {} env person "body." .responseBody =
      ({ mode := .responseBody
         entries := [{ path := "body.name", jsonType := .string },
           { path := "body.mood", jsonType := .string },
           { path := "body.tags.[]", jsonType := .number },
           { path := "body.home.number", jsonType := .number }] },
        { diagnostics := [.malformedCollection "body.notes" "java.util.List" 0,
            .unresolvedType "body.employer" "town.Employer",
            .cyclicReference "body.friends" "town.Person",
            .depthLimitExceeded "body.home.landlord" "town.Landlord" 2] }) := by
    decide +kernel
  have hentries : Outcome.entries os = _ :=
    congrArg (·.1.entries) (hdocument.symm.trans hrun)
  have hdiagnostics : Outcome.diagnostics os = _ :=
    congrArg (·.2.diagnostics) (hdocument.symm.trans hrun)
  refine ⟨Nat.two_pos, hentries, hdiagnostics, ?_, hfields Nat.two_pos⟩
  rw [← hlength]
  exact congrArg₂ (·.length + ·.length) hentries hdiagnostics

end Pass

end HandlerDocs
