import HandlerDocs.Proofs.Fields.Outcomes

/-!
# What a walk reports

A walk threads a `Pass` through the fields: it adds to the diagnostics and keeps a stack of the
classes that enclose the current field. All it does to its state is to set passes, one after the
other, so it can be run in every monad that holds a pass (`HoldsPass`): as a `Walk`, whose state is
the last pass that was set, or as a `WatchedWalk`, whose state keeps all of them.

`Reports env w enclosing os` says of a walk `w`, in any such monad, what it comes to with the
classes `enclosing` around it: it finds the entries of `os`, it adds the diagnostics of `os` to
those there were before, it leaves the stack as it was, and in every pass that it sets on the way
the names on the stack are pairwise distinct and not more than the depth limit allows.

* `Reports.skip`, `Reports.leaf`, `Reports.inside`, `Reports.fields` — the parts of a walk.
* `Reports.run_eq` — what is returned by a walk as it is run.
* `Reports.run_watched` — what is seen of a walk that is watched.
-/

namespace HandlerDocs

namespace Walk

/-! ### Monads that hold a pass -/

/-- A monad that holds a pass in a state of type `σ`: asking for the pass reads it, setting it puts
another one in its place, and nothing else happens. -/
class HoldsPass (m : Type → Type) [Monad m] [MonadStateOf Pass m] (σ : outParam Type) where
  /-- Runs a computation from a state. -/
  run {α : Type} : m α → σ → α × σ
  /-- The pass in a state. -/
  pass : σ → Pass
  /-- Puts a pass into a state. -/
  put : σ → Pass → σ
  pass_put (s : σ) (p : Pass) : pass (put s p) = p
  run_pure {α : Type} (a : α) (s : σ) : run (pure a) s = (a, s)
  run_bind {α β : Type} (x : m α) (f : α → m β) (s : σ) :
    run (x >>= f) s = run (f (run x s).1) (run x s).2
  run_get (s : σ) : run (get : m Pass) s = (pass s, s)
  run_modify (f : Pass → Pass) (s : σ) : run (modify f : m PUnit) s = (⟨⟩, put s (f (pass s)))

attribute [simp] HoldsPass.pass_put HoldsPass.run_pure HoldsPass.run_bind HoldsPass.run_get
  HoldsPass.run_modify

instance : HoldsPass Walk Pass where
  run w pass := (w.run pass).run
  pass pass := pass
  put _ p := p
  pass_put _ _ := rfl
  run_pure _ _ := rfl
  run_bind _ _ _ := rfl
  run_get _ := rfl
  run_modify _ _ := rfl

/-- A pass with all passes that there were before it, oldest first, and itself at the end. -/
structure Watch where
  /-- The pass. -/
  pass : Pass
  /-- The passes that were set. -/
  seen : List Pass := []

/-- A walk that is watched: every pass that it sets is seen. -/
abbrev WatchedWalk :=
  StateM Watch

instance : MonadStateOf Pass WatchedWalk where
  get := return (← getThe Watch).pass
  set pass := modifyThe Watch fun watch => { pass, seen := watch.seen ++ [pass] }
  modifyGet f := modifyGetThe Watch fun watch =>
    ((f watch.pass).1, { pass := (f watch.pass).2, seen := watch.seen ++ [(f watch.pass).2] })

instance : HoldsPass WatchedWalk Watch where
  run w watch := (w.run watch).run
  pass := Watch.pass
  put watch p := { pass := p, seen := watch.seen ++ [p] }
  pass_put _ _ := rfl
  run_pure _ _ := rfl
  run_bind _ _ _ := rfl
  run_get _ := rfl
  run_modify _ _ := rfl

/-! ### Reporting -/

/-- The names on a stack are pairwise distinct and not more than the depth limit allows. -/
structure IsStack (env : Surroundings) (enclosing : List String) : Prop where
  nodup : enclosing.Nodup
  length_le : enclosing.length ≤ env.config.maxDepth

theorem isStack_nil (env : Surroundings) : IsStack env [] :=
  ⟨List.nodup_nil, Nat.zero_le _⟩

variable {m : Type → Type} {σ : Type} [Monad m] [MonadStateOf Pass m] [HoldsPass m σ]
variable {env : Surroundings} {enclosing : List String} {os : List Outcome}

open HoldsPass (run pass put)

/-- A walk with some classes around it finds the entries of some outcomes, adds their diagnostics to
the earlier ones and leaves the stack as it was. What it does to the state is to put passes into it
whose stacks are stacks. -/
def Reports (env : Surroundings) (w : m (List FieldEntry)) (enclosing : List String)
    (os : List Outcome) : Prop :=
  ∀ (s : σ) (earlier : List Diagnostic), pass m s = { enclosing, diagnostics := earlier } →
    ∃ passes : List Pass,
      run w s = (Outcome.entries os, passes.foldl (put m) s) ∧
      pass m (passes.foldl (put m) s) =
        { enclosing, diagnostics := earlier ++ Outcome.diagnostics os } ∧
      ∀ p ∈ passes, IsStack env p.enclosing

namespace Reports

theorem leaf (env : Surroundings) (enclosing : List String) (entry : FieldEntry) :
    Reports env (pure [entry] : m _) enclosing [.leaf entry] := by
  intro s earlier hs
  refine ⟨[], HoldsPass.run_pure _ s, ?_, List.forall_mem_nil _⟩
  rw [Outcome.diagnostics_leaf, List.append_nil]
  exact hs

theorem skip (h : IsStack env enclosing) (d : Diagnostic) :
    Reports env (Walk.skip d : m _) enclosing [.skipped d] := by
  intro s earlier hs
  refine ⟨[{ enclosing, diagnostics := earlier ++ [d] }], ?_, ?_, List.forall_mem_singleton.mpr h⟩
  · simp [Walk.skip, hs]
  · exact HoldsPass.pass_put s _

/-- A class is put on the stack while its inside is walked. -/
theorem inside {name : String} {w : m (List FieldEntry)} (hout : IsStack env enclosing)
    (hin : IsStack env (name :: enclosing)) (h : Reports env w (name :: enclosing) os) :
    Reports env (Walk.inside name w) enclosing os := by
  intro s earlier hs
  obtain ⟨passes, hrun, hpass, hstacks⟩ :=
    h (put m s { enclosing := name :: enclosing, diagnostics := earlier }) earlier
      (HoldsPass.pass_put s _)
  refine ⟨{ enclosing := name :: enclosing, diagnostics := earlier } :: passes ++
    [{ enclosing, diagnostics := earlier ++ Outcome.diagnostics os }], ?_, ?_, ?_⟩
  · simp [Walk.inside, hs, hrun, hpass]
  · simp
  · simp only [List.cons_append, List.forall_mem_cons, List.forall_mem_append]
    exact ⟨hin, hstacks, hout, List.forall_mem_nil _⟩

/-- Fields report one after the other. -/
theorem fields {index : ClassIndex} {enter : Entering m} {start : String}
    {os : FieldDecl → List Outcome}
    (h : ∀ field, Reports env (type index enter field.type (start ++ field.name) .field) enclosing
      (os field)) (fs : List FieldDecl) :
    Reports env (Walk.fields index enter start fs) enclosing (fs.flatMap os) := by
  induction fs with
  | nil =>
    intro s earlier hs
    refine ⟨[], HoldsPass.run_pure _ s, ?_, List.forall_mem_nil _⟩
    rw [List.flatMap_nil, Outcome.diagnostics_nil, List.append_nil]
    exact hs
  | cons field rest ih =>
    intro s earlier hs
    obtain ⟨first, hrun, hpass, hstacks⟩ := h field s earlier hs
    obtain ⟨others, hrun', hpass', hstacks'⟩ := ih _ _ hpass
    refine ⟨first ++ others, ?_, ?_, List.forall_mem_append.mpr ⟨hstacks, hstacks'⟩⟩
    · simp [Walk.fields, hrun, hrun']
    · rw [List.foldl_append, hpass', List.flatMap_cons, Outcome.diagnostics_append,
        List.append_assoc]

end Reports

/-! ### Runs -/

/-- What is returned by a walk as it is run. -/
theorem Reports.run_eq {w : Walk (List FieldEntry)} (h : Reports env w enclosing os)
    (earlier : List Diagnostic) :
    (w.run { enclosing, diagnostics := earlier }).run =
      (Outcome.entries os, { enclosing, diagnostics := earlier ++ Outcome.diagnostics os }) := by
  obtain ⟨passes, hrun, hpass, -⟩ := h { enclosing, diagnostics := earlier } earlier rfl
  exact hrun.trans (congrArg _ hpass)

theorem foldl_put_watch (passes : List Pass) (watch : Watch) :
    (passes.foldl (put WatchedWalk) watch).seen = watch.seen ++ passes := by
  induction passes generalizing watch with
  | nil => rw [List.foldl_nil, List.append_nil]
  | cons p passes ih =>
    rw [List.foldl_cons, ih, List.append_cons]
    rfl

/-- What is seen of a walk that is watched: it returns the same, and the stack of every pass that it
sets is one. -/
theorem Reports.run_watched {w : WatchedWalk (List FieldEntry)} (h : Reports env w enclosing os)
    (earlier : List Diagnostic) :
    let (entries, watch) := (w.run { pass := { enclosing, diagnostics := earlier } }).run
    entries = Outcome.entries os ∧
      watch.pass = { enclosing, diagnostics := earlier ++ Outcome.diagnostics os } ∧
      ∀ p ∈ watch.seen, IsStack env p.enclosing := by
  obtain ⟨passes, hrun, hpass, hstacks⟩ :=
    h { pass := { enclosing, diagnostics := earlier } } earlier rfl
  have hseen := foldl_put_watch passes { pass := { enclosing, diagnostics := earlier } }
  change (w.run _).run = _ at hrun
  rw [hrun]
  refine ⟨rfl, hpass, ?_⟩
  rw [hseen]
  exact hstacks

end Walk

end HandlerDocs
