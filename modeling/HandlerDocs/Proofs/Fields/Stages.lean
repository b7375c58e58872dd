import HandlerDocs.Proofs.Fields.Unfolding
import Mathlib.Logic.Function.Iterate

/-!
# The stages of a walk

A walk is recursive, so that it does not show how many steps it takes. Here it is taken apart into
single ones: a `Stage` holds the pass of the walk, the entries found so far and, for each class on
the stack, the fields that are still to come. One step takes up the next field of the innermost
class, or leaves that class when none is left.

* `Stage.isStack_iterate` — at every stage the names on the stack are pairwise distinct, and there
  are no more of them than the depth limit allows.
* `exists_iterate_begin_eq` — the steps come to an end, within a number of them that depends on the
  classes but not on the depth limit: each class that is entered has a name that is not on the stack
  yet, and there are only finitely many names.
* `exists_documentFrom_eq_stage` — the stage at which they end holds what the walk returns.
-/

namespace HandlerDocs

/-- The surroundings with another depth limit. -/
def Surroundings.withMaxDepth (env : Surroundings) (d : ℕ) : Surroundings :=
  { env with config := { env.config with maxDepth := d } }

namespace Walk

/-- What is left to be done in a class that is being walked. -/
structure Frame where
  /-- What the paths of the fields start with. -/
  start : String
  /-- The fields that are still to come. -/
  pending : List FieldDecl

/-- How far a walk has come. -/
structure Stage where
  /-- The pass, with the names of the classes that are being walked. -/
  pass : Pass
  /-- The entries so far. -/
  entries : List FieldEntry := []
  /-- What is left to be done in the classes that are being walked, innermost first. -/
  frames : List Frame := []

namespace Stage

variable {env : Surroundings}

/-! ### Steps -/

/-- The stage with some outcomes added. -/
def record (s : Stage) (os : List Outcome) : Stage :=
  { s with
    pass := { s.pass with diagnostics := s.pass.diagnostics ++ Outcome.diagnostics os }
    entries := s.entries ++ Outcome.entries os }

/-- The stage inside of a class, with some of its fields still to come. -/
def inside (s : Stage) (name start : String) (pending : List FieldDecl) : Stage :=
  { s with
    pass := { s.pass with enclosing := name :: s.pass.enclosing }
    frames := { start, pending } :: s.frames }

/-- Takes up a target: an object is entered when its name is not on the stack and the stack is not
full. -/
def visit (env : Surroundings) (s : Stage) : Target → Stage
  | .settled o => s.record [o]
  | .object c start path =>
    if c.name ∈ s.pass.enclosing then s.record [.skipped (.cyclicReference path c.name)]
    else if s.pass.enclosing.length < env.config.maxDepth then
      s.inside c.name start (visibleFields env.config c)
    else s.record [.skipped (.depthLimitExceeded path c.name env.config.maxDepth)]

/-- Takes up the next field, or leaves a class that has none left. -/
def step (env : Surroundings) (s : Stage) : Stage :=
  match s.frames with
  | [] => s
  | { pending := [], .. } :: frames =>
    { s with pass := { s.pass with enclosing := s.pass.enclosing.tail }, frames }
  | { start, pending := field :: pending } :: frames =>
    visit env { s with frames := { start, pending } :: frames } (.ofField env.index start field)

/-- The stage at which the documentation of a root begins. -/
def begin (env : Surroundings) (root : Root) (earlier : List Diagnostic) : Stage :=
  visit env { pass := { diagnostics := earlier } } (root.target env.index)

theorem record_nil (s : Stage) : s.record [] = s := by
  simp [record]

theorem record_record (s : Stage) (os os' : List Outcome) :
    (s.record os).record os' = s.record (os ++ os') := by
  simp [record]

theorem record_inside (s : Stage) (name start : String) (pending : List FieldDecl)
    (os : List Outcome) :
    (s.inside name start pending).record os = (s.record os).inside name start pending := rfl

theorem step_inside_nil (s : Stage) (name start : String) :
    (s.inside name start []).step env = s := rfl

theorem step_inside_cons (s : Stage) (name start : String) (field : FieldDecl)
    (pending : List FieldDecl) :
    (s.inside name start (field :: pending)).step env =
      (s.inside name start pending).visit env (.ofField env.index start field) := rfl

/-- Nothing happens any more when no class is left. -/
theorem iterate_step_of_frames_eq_nil {s : Stage} (h : s.frames = []) (n : ℕ) :
    (step env)^[n] s = s := by
  refine Function.iterate_fixed ?_ n
  rw [step, h]

/-! ### The stack -/

theorem isStack_visit {s : Stage} (h : IsStack env s.pass.enclosing) (t : Target) :
    IsStack env (s.visit env t).pass.enclosing := by
  cases t with
  | settled o => exact h
  | object c start path =>
    rw [visit]
    split_ifs with hname hroom
    · exact h
    · exact ⟨List.nodup_cons.mpr ⟨hname, h.nodup⟩, hroom⟩
    · exact h

theorem isStack_step {s : Stage} (h : IsStack env s.pass.enclosing) :
    IsStack env (s.step env).pass.enclosing := by
  rw [step]
  split
  · exact h
  · refine ⟨h.nodup.sublist (List.tail_sublist _), ?_⟩
    exact (List.tail_sublist _).length_le.trans h.length_le
  · refine isStack_visit ?_ _
    exact h

/-- **The stack at every stage.** The names on it are pairwise distinct and not more than the depth
limit allows. -/
theorem isStack_iterate (env : Surroundings) (root : Root) (earlier : List Diagnostic) (n : ℕ) :
    IsStack env ((step env)^[n] (begin env root earlier)).pass.enclosing := by
  induction n with
  | zero => exact isStack_visit (isStack_nil env) _
  | succ n ih =>
    rw [Function.iterate_succ_apply']
    exact isStack_step ih

/-! ### Termination -/

/-- One stage follows from another within a number of steps. -/
def Reaches (env : Surroundings) (N : ℕ) (s t : Stage) : Prop :=
  ∃ n ≤ N, (step env)^[n] s = t

theorem Reaches.refl (s : Stage) : Reaches env 0 s s :=
  ⟨0, le_rfl, rfl⟩

theorem Reaches.single {s t : Stage} (h : s.step env = t) : Reaches env 1 s t :=
  ⟨1, le_rfl, h⟩

theorem Reaches.trans {M N : ℕ} {s t u : Stage} (h : Reaches env M s t) (h' : Reaches env N t u) :
    Reaches env (M + N) s u := by
  obtain ⟨m, hm, rfl⟩ := h
  obtain ⟨n, hn, rfl⟩ := h'
  exact ⟨n + m, by omega, Function.iterate_add_apply _ n m s⟩

theorem Reaches.mono {M N : ℕ} {s t : Stage} (h : Reaches env M s t) (hle : M ≤ N) :
    Reaches env N s t :=
  h.imp fun _ hn => ⟨hn.1.trans hle, hn.2⟩

/-- A target comes to its outcomes below the classes `enclosing`, within a number of steps that does
not depend on the depth limit. -/
def Settles (env : Surroundings) (enclosing : List String) (t : Target) : Prop :=
  ∃ N, ∀ (d : ℕ) (s : Stage), s.pass.enclosing = enclosing →
    Reaches (env.withMaxDepth d) N (s.visit (env.withMaxDepth d) t)
      (s.record (outcomes (env.withMaxDepth d) enclosing.toFinset t))

/-- The fields of a class are taken up one after the other, and then the class is left. -/
private theorem exists_reaches_record {enclosing : List String} {name start : String}
    (h : ∀ field, Settles env (name :: enclosing) (.ofField env.index start field))
    (fs : List FieldDecl) :
    ∃ N, ∀ (d : ℕ) (s : Stage), s.pass.enclosing = enclosing →
      Reaches (env.withMaxDepth d) N (s.inside name start fs)
        (s.record (fs.flatMap fun field =>
          outcomes (env.withMaxDepth d) (name :: enclosing).toFinset
            (.ofField env.index start field))) := by
  induction fs with
  | nil =>
    refine ⟨1, fun d s _ => ?_⟩
    rw [List.flatMap_nil, record_nil]
    exact .single (step_inside_nil s name start)
  | cons field fs ih =>
    obtain ⟨M, hM⟩ := h field
    obtain ⟨N, hN⟩ := ih
    refine ⟨1 + (M + N), fun d s hs => ?_⟩
    -- The first step takes the field up; the frame with the other fields waits behind it.
    have hfirst : Reaches (env.withMaxDepth d) 1 (s.inside name start (field :: fs))
        ((s.inside name start fs).visit (env.withMaxDepth d) (.ofField env.index start field)) :=
      .single (step_inside_cons s name start field fs)
    have hfield := hM d (s.inside name start fs) (congrArg (name :: ·) hs)
    rw [record_inside] at hfield
    have hrest := hN d (s.record (outcomes (env.withMaxDepth d) (name :: enclosing).toFinset
      (.ofField env.index start field))) hs
    rw [List.flatMap_cons, ← record_record]
    exact hfirst.trans (hfield.trans hrest)

/-- Every target settles. The induction is on the known names that are not on the stack: a class is
only entered when its name is one of them. -/
theorem settles (env : Surroundings) {classes : List ClassDecl}
    (hindex : env.index.classes ⊆ classes) (enclosing : List String) (nodup : enclosing.Nodup)
    (t : Target) (ht : t.IsOf classes) : Settles env enclosing t := by
  induction hcard : ((classes.map ClassDecl.name).toFinset \ enclosing.toFinset).card
    using Nat.strong_induction_on generalizing enclosing t with
  | _ k ih =>
  cases t with
  | settled o =>
    refine ⟨0, fun d s _ => ?_⟩
    rw [outcomes_settled]
    exact Reaches.refl _
  | object c start path =>
    by_cases hname : c.name ∈ enclosing
    · refine ⟨0, fun d s hs => ?_⟩
      rw [outcomes, if_pos (List.mem_toFinset.mpr hname), visit, if_pos (hs ▸ hname)]
      exact Reaches.refl _
    · -- Entering the class takes its name out of those that are not on the stack.
      have hfewer : ((classes.map ClassDecl.name).toFinset \
          (c.name :: enclosing).toFinset).card < k := by
        rw [← hcard, List.toFinset_cons, Finset.sdiff_insert]
        have hknown : c.name ∈ (classes.map ClassDecl.name).toFinset :=
          List.mem_toFinset.mpr (List.mem_map_of_mem ht)
        exact Finset.card_erase_lt_of_mem
          (Finset.mem_sdiff.mpr ⟨hknown, mt List.mem_toFinset.mp hname⟩)
      obtain ⟨N, hN⟩ := exists_reaches_record
        (fun field => ih _ hfewer (c.name :: enclosing) (List.nodup_cons.mpr ⟨hname, nodup⟩)
          (.ofField env.index start field) ((Target.isOf_ofField _ _ _).mono hindex) rfl)
        (visibleFields env.config c)
      refine ⟨N, fun d s hs => ?_⟩
      rw [outcomes, if_neg (mt List.mem_toFinset.mp hname), visit, if_neg (hs ▸ hname), hs,
        List.toFinset_card_of_nodup nodup]
      split_ifs with hroom
      · rw [← List.toFinset_cons]
        exact hN d s hs
      · exact (Reaches.refl _).mono (Nat.zero_le N)

/-- **Termination.** The steps from the beginning of a documentation come to an end within a number
of them that does not depend on the depth limit, and the stage at which they end holds the outcomes
of the root. -/
theorem exists_iterate_begin_eq (env : Surroundings) (root : Root) (earlier : List Diagnostic) :
    ∃ N, ∀ d : ℕ, (step (env.withMaxDepth d))^[N] (begin (env.withMaxDepth d) root earlier) =
      ({ pass := { diagnostics := earlier } } : Stage).record
        (root.outcomes (env.withMaxDepth d)) := by
  obtain ⟨N, hN⟩ := settles env (root.classes_subset env.index) [] List.nodup_nil
    (root.target env.index) (root.isOf_target env.index)
  refine ⟨N, fun d => ?_⟩
  obtain ⟨n, hn, hend⟩ := hN d { pass := { diagnostics := earlier } } rfl
  -- The end may be reached early; nothing happens in the steps that are left over.
  obtain ⟨m, rfl⟩ := Nat.exists_eq_add_of_le' hn
  rw [Function.iterate_add_apply, begin]
  exact (congrArg _ hend).trans (iterate_step_of_frames_eq_nil rfl m)

end Stage

end Walk

/-- The stage at which the steps end holds what is returned. -/
theorem Pass.exists_documentFrom_eq_stage (env : Surroundings) (root : Walk.Root)
    (mode : PayloadMode) (earlier : List Diagnostic) :
    ∃ N, ∀ d : ℕ, ∃ s, (Walk.Stage.step (env.withMaxDepth d))^[N]
        (Walk.Stage.begin (env.withMaxDepth d) root earlier) = s ∧ s.frames = [] ∧
      documentFrom { diagnostics := earlier } (env.withMaxDepth d) root mode =
        ({ mode, entries := s.entries }, s.pass) := by
  obtain ⟨N, hN⟩ := Walk.Stage.exists_iterate_begin_eq env root earlier
  exact ⟨N, fun d => ⟨_, hN d, rfl, documentFrom_eq _ root mode earlier⟩⟩

end HandlerDocs
