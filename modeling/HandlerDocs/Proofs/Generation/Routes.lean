import HandlerDocs.Proofs.Generation.Handover

/-!
# Listing and generating agree

Whether a handler answers requests is decided in four places: when it is listed, when it is
described, when its snippet is generated, and when it is only asked for whether it has one. All of
them agree, whatever the configuration is, and so do the method and the path.

* `Handler.route?_eq` — a handler is listed with the method and the path of its description.
* `Generator.map_route_generate?` — a snippet is listed as its handler is.
* `Generation.map_route_snippets`, `Generation.skipped_ofHandlers` — the same for several handlers.
* `routes_agree` — the same for snapshots and for whole runs.
-/

namespace HandlerDocs

/-- A handler is listed with the method and the path of its description. -/
theorem Handler.route?_eq (h : Handler) (config : Config) :
    h.route? = (h.describe? config).map fun d => (d.1.httpMethod, d.1.path) := by
  rw [route?, describe?, Option.map_map]
  rfl

/-- A handler keeps its name in its description. -/
theorem Handler.methodName_of_describe? {h : Handler} {config : Config}
    {d : RequestDescription × List Diagnostic} (hd : h.describe? config = some d) :
    d.1.methodName = h.name := by
  rw [describe?, Option.map_eq_some_iff] at hd
  obtain ⟨⟨method, source⟩, -, rfl⟩ := hd
  rfl

/-- A snippet is listed as its handler is. -/
theorem Generator.map_route_generate? (g : Generator) (h : Handler) :
    (g.generate? h).map Snippet.route = h.namedRoute? := by
  rw [generate?, Handler.namedRoute?, h.route?_eq g.config]
  cases hd : h.describe? g.config with
  | none => rfl
  | some d => simp [Snippet.route, Handler.methodName_of_describe? hd]

/-- A handler has a snippet exactly when it is listed. -/
theorem Generator.isSome_generate? (g : Generator) (h : Handler) :
    (g.generate? h).isSome = h.namedRoute?.isSome := by
  rw [← g.map_route_generate? h, Option.isSome_map]

namespace Generation

/-- The snippets of several handlers are listed as the handlers are. -/
theorem map_route_snippets (g : Generator) (handlers : List Handler) :
    (ofHandlers g handlers).snippets.map Snippet.route =
      handlers.filterMap Handler.namedRoute? := by
  rw [ofHandlers, List.map_filterMap]
  exact congrArg (List.filterMap · handlers) (funext g.map_route_generate?)

/-- The handlers without a snippet are those that are not listed. -/
theorem skipped_ofHandlers (g : Generator) (handlers : List Handler) :
    (ofHandlers g handlers).skipped = handlers.countP fun h => h.namedRoute?.isNone := by
  refine congrArg (List.countP · handlers) (funext fun h => ?_)
  rw [← Option.not_isSome, ← Option.not_isSome, g.isSome_generate?]

end Generation

/-- A snapshot file is listed as its snapshot is. -/
theorem GenerateRequest.listHandlers_of_loads {request : GenerateRequest}
    {read : String → Option String} {config : Config} {snapshot : Snapshot}
    (h : request.Loads read config snapshot) :
    listHandlers read request.snapshotPath = .ok snapshot.routes := by
  have hfile : Snapshot.ofFile request.snapshotPath (read request.snapshotPath) = .ok snapshot := by
    have hsnapshot := h.snapshot
    unfold GenerateRequest.snapshot at hsnapshot
    cases hread : Snapshot.ofFile request.snapshotPath (read request.snapshotPath) with
    | error e =>
      rw [hread] at hsnapshot
      cases hsnapshot
    | ok snapshot' =>
      rw [hread] at hsnapshot
      exact congrArg Except.ok (Except.ok.inj hsnapshot)
  rw [listHandlers, hfile]

/-- **Listing and generating agree.** A handler is listed exactly when it has a description, when it
has a snippet, and when it is said to have one, and it is listed with the method and the path of its
description. So the handlers of a snapshot are listed as their snippets are, and those that are not
listed are counted. The same holds of a snapshot file and of every run over all its handlers, unless
the sink refuses the text. -/
theorem routes_agree :
    (∀ (h : Handler) (config : Config),
      h.route? = (h.describe? config).map fun d => (d.1.httpMethod, d.1.path)) ∧
    (∀ (index : ClassIndex) (config : Config), config.IsValid →
      ∃ g, Generator.make index config = .ok g ∧ ∀ h : Handler,
        (g.generate? h).isSome = h.route?.isSome ∧
        Generator.isApplicable h = h.route?.isSome ∧
        (g.generate? h).map Snippet.route = h.namedRoute?) ∧
    (∀ (snapshot : Snapshot) (config : Config), config.IsValid →
      ∃ generation, GenerateRequest.generateFrom snapshot config none = .ok generation ∧
        generation.snippets.map Snippet.route = snapshot.routes ∧
        generation.skipped = snapshot.handlers.countP fun h => h.namedRoute?.isNone) ∧
    ∀ (request : GenerateRequest) (read : String → Option String) (config : Config)
      (snapshot : Snapshot), request.handler = none → request.Loads read config snapshot →
        ∃ generation,
          listHandlers read request.snapshotPath =
            .ok (generation.snippets.map Snippet.route) ∧
          generation.skipped = snapshot.handlers.countP (fun h => h.namedRoute?.isNone) ∧
          ∀ {σ : Type} (sink : Sink (StateM σ)) (s : σ),
            ((request.execute sink read).run s).1 = .ok generation ∨
              ((request.execute sink read).run s).1 = .error .output := by
  refine ⟨Handler.route?_eq, fun index config hvalid => ?_, fun snapshot config hvalid => ?_,
    fun request read config snapshot hhandler hloads => ?_⟩
  · refine ⟨_, Generator.make_eq index hvalid, fun h =>
      ⟨?_, ?_, Generator.map_route_generate? _ h⟩⟩
    · rw [Generator.isSome_generate?, Handler.namedRoute?, Option.isSome_map]
    · rw [Generator.isApplicable, Handler.route?, Option.isSome_map]
  · exact ⟨_, GenerateRequest.generateFrom_all snapshot hvalid,
      Generation.map_route_snippets _ _, Generation.skipped_ofHandlers _ _⟩
  · have hvalid := GenerateRequest.isValid_of_config hloads.config
    have hprepare := GenerateRequest.prepare_of_loads hloads
    rw [hhandler, GenerateRequest.generateFrom_all snapshot hvalid] at hprepare
    refine ⟨.ofHandlers ⟨⟨snapshot.index, config⟩, hvalid⟩ snapshot.handlers, ?_,
      Generation.skipped_ofHandlers _ _, fun sink s => ?_⟩
    · rw [GenerateRequest.listHandlers_of_loads hloads, Generation.map_route_snippets]
      rfl
    · rw [GenerateRequest.run_execute]
      rcases GenerateRequest.run_of_prepare hprepare sink s with ⟨-, hrun⟩ | ⟨text, -, -, hrun⟩ <;>
        rw [hrun]
      · exact .inl rfl
      · cases (sink.publish text s).1
        · exact .inr rfl
        · exact .inl rfl

/-- In the shop, one handler is listed, and the other one is counted. -/
theorem routes_agree_shop :
    ∃ generation : Generation,
      listHandlers GenerateRequest.shopFile "shop.yaml" =
        .ok (generation.snippets.map Snippet.route) ∧
      generation.snippets.map Snippet.route = [{ name := "list", method := .get, path := "" }] ∧
      generation.skipped = 1 := by
  obtain ⟨snapshot, hloads, hhandlers⟩ := GenerateRequest.exists_loads_shop
  obtain ⟨generation, hlist, hskipped, -⟩ :=
    routes_agree.2.2.2 .shop GenerateRequest.shopFile {} snapshot rfl hloads
  have hroutes : snapshot.routes = [{ name := "list", method := .get, path := "" }] := by
    rw [Snapshot.routes, hhandlers]
    decide +kernel
  have hfile := GenerateRequest.listHandlers_of_loads hloads
  refine ⟨generation, hlist, ?_, ?_⟩
  · rw [← hroutes]
    exact Except.ok.inj (hlist.symm.trans hfile)
  · rw [hskipped, hhandlers]
    decide +kernel

end HandlerDocs
