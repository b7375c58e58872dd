import HandlerDocs.Proofs.Fields.Stages
import Mathlib.Data.List.Flatten

/-!
# The depth limit

The depth limit only ever takes something away. A greater limit keeps every entry and every other
diagnostic, in the order in which they were, and fills in what was cut off
(`filter_outcomes_sublist`). As the names on the path are pairwise distinct, a limit that is not
smaller than the number of class names has no effect: nothing is cut off (`not_isDepthLimit`), and
the outcomes are those of every other such limit (`outcomes_eq_of_card_le`).

* `Pass.documentFrom_withMaxDepth` — this and the bound on the stack, in a walk that is watched and
  at every stage of it.
-/

namespace HandlerDocs

/-- Whether a diagnostic says that a class lies too deep. -/
def Diagnostic.isDepthLimit : Diagnostic → Bool
  | .depthLimitExceeded .. => true
  | _ => false

namespace Outcome

/-- Whether something is left out because it lies too deep. -/
def isDepthLimit : Outcome → Bool
  | leaf _ => false
  | skipped d => d.isDepthLimit

/-- Entries never lie too deep. -/
theorem entries_filter_not_isDepthLimit (os : List Outcome) :
    entries (os.filter (!·.isDepthLimit)) = entries os := by
  rw [entries, entries, List.filterMap_filter]
  refine List.filterMap_congr fun o _ => ?_
  cases o with
  | leaf entry => rfl
  | skipped d => exact ite_self none

theorem diagnostics_filter_not_isDepthLimit (os : List Outcome) :
    diagnostics (os.filter (!·.isDepthLimit)) = (diagnostics os).filter (!·.isDepthLimit) := by
  rw [diagnostics, diagnostics, List.filterMap_filter, List.filter_filterMap]
  refine List.filterMap_congr fun o _ => ?_
  cases o with
  | leaf entry => rfl
  | skipped d => rfl

end Outcome

namespace Walk

variable {env : Surroundings} {d d' : ℕ}

/-! ### A greater limit -/

/-- A greater limit only adds to the outcomes that are not cut off. -/
theorem filter_outcomes_sublist (env : Surroundings) (hle : d ≤ d') (onPath : Finset String)
    (t : Target) :
    ((outcomes (env.withMaxDepth d) onPath t).filter (!·.isDepthLimit)).Sublist
      ((outcomes (env.withMaxDepth d') onPath t).filter (!·.isDepthLimit)) := by
  induction onPath, t using outcomes.induct (env.withMaxDepth d) with
  | case1 onPath o =>
    rw [outcomes_settled, outcomes_settled]
  | case2 onPath c start path hname =>
    rw [outcomes, outcomes, if_pos hname, if_pos hname]
  | case3 onPath c start path hname hroom ih =>
    have hroom' : onPath.card < (env.withMaxDepth d').config.maxDepth := hroom.trans_le hle
    rw [outcomes, outcomes, if_neg hname, if_neg hname, if_pos hroom, if_pos hroom',
      List.filter_flatMap, List.filter_flatMap]
    exact List.Sublist.flatMap_right _ fun field _ => ih field
  | case4 onPath c start path hname hroom =>
    -- What is cut off leaves nothing behind, whatever the greater limit finds there.
    rw [outcomes, if_neg hname, if_neg hroom]
    exact List.nil_sublist _

/-! ### A limit that has no effect -/

/-- Whether a target is left out because it lies too deep. -/
def Target.isDepthLimit : Target → Bool
  | .settled o => o.isDepthLimit
  | .object .. => false

theorem isDepthLimit_target (r : Resolution) (start path : String) (ofLeaf : JsonKind → Outcome)
    (hleaf : ∀ jsonType, (ofLeaf jsonType).isDepthLimit = false) :
    (r.target start path ofLeaf).isDepthLimit = false := by
  cases r with
  | leaf jsonType => exact hleaf jsonType
  | object c => rfl
  | unresolved typeName => rfl
  | malformed typeName arguments => rfl

/-- A target below classes of which all names are known. -/
structure Known (classes : List ClassDecl) (onPath : Finset String) (t : Target) : Prop where
  subset : onPath ⊆ (classes.map ClassDecl.name).toFinset
  isOf : t.IsOf classes

variable {classes : List ClassDecl} {onPath : Finset String} {c : ClassDecl} {start path : String}

/-- Above a class that is not on the path, not all names are on the path. -/
theorem Known.card_lt (h : Known classes onPath (.object c start path)) (hname : c.name ∉ onPath) :
    onPath.card < (classes.map ClassDecl.name).toFinset.card :=
  Finset.card_lt_card
    ⟨h.subset, fun hall => hname (hall (List.mem_toFinset.mpr (List.mem_map_of_mem h.isOf)))⟩

theorem Known.ofField {index : ClassIndex} (hindex : index.classes ⊆ classes)
    (h : Known classes onPath (.object c start path)) (field : FieldDecl) :
    Known classes (insert c.name onPath) (.ofField index start field) where
  subset := Finset.insert_subset (List.mem_toFinset.mpr (List.mem_map_of_mem h.isOf)) h.subset
  isOf := (Target.isOf_ofField index start field).mono hindex

/-- With as much room as there are names, nothing is cut off. -/
theorem not_isDepthLimit (hindex : env.index.classes ⊆ classes)
    (hroom : (classes.map ClassDecl.name).toFinset.card ≤ env.config.maxDepth) {t : Target}
    (h : Known classes onPath t) (hcut : t.isDepthLimit = false) :
    ∀ o ∈ outcomes env onPath t, o.isDepthLimit = false := by
  induction onPath, t using outcomes.induct env with
  | case1 onPath o =>
    rw [outcomes_settled]
    exact List.forall_mem_singleton.mpr hcut
  | case2 onPath c start path hname =>
    rw [outcomes, if_pos hname]
    exact List.forall_mem_singleton.mpr rfl
  | case3 onPath c start path hname hfree ih =>
    rw [outcomes, if_neg hname, if_pos hfree]
    intro o ho
    obtain ⟨field, -, hfield⟩ := List.mem_flatMap.mp ho
    exact ih field (h.ofField hindex field) (isDepthLimit_target _ _ _ _ fun _ => rfl) o hfield
  | case4 onPath c start path hname hfull =>
    exact absurd ((h.card_lt hname).trans_le hroom) hfull

/-- Two limits that both leave as much room as there are names give the same outcomes. -/
theorem outcomes_eq_of_card_le (hindex : env.index.classes ⊆ classes)
    (hd : (classes.map ClassDecl.name).toFinset.card ≤ d)
    (hd' : (classes.map ClassDecl.name).toFinset.card ≤ d') {t : Target}
    (h : Known classes onPath t) :
    outcomes (env.withMaxDepth d) onPath t = outcomes (env.withMaxDepth d') onPath t := by
  induction onPath, t using outcomes.induct (env.withMaxDepth d) with
  | case1 onPath o => rw [outcomes_settled, outcomes_settled]
  | case2 onPath c start path hname => rw [outcomes, outcomes, if_pos hname, if_pos hname]
  | case3 onPath c start path hname hfree ih =>
    have hfree' : onPath.card < (env.withMaxDepth d').config.maxDepth :=
      (h.card_lt hname).trans_le hd'
    rw [outcomes, outcomes, if_neg hname, if_neg hname, if_pos hfree, if_pos hfree']
    exact List.flatMap_congr fun field _ => ih field (h.ofField hindex field)
  | case4 onPath c start path hname hfull =>
    exact absurd ((h.card_lt hname).trans_le hd) hfull

theorem Root.isDepthLimit_target (index : ClassIndex) (root : Root) :
    (root.target index).isDepthLimit = false := by
  cases root with
  | declared c start => rfl
  | payload type paginated => exact Walk.isDepthLimit_target _ _ _ _ fun _ => rfl

theorem Root.known (index : ClassIndex) (root : Root) :
    Known (root.classes index) ∅ (root.target index) where
  subset := Finset.empty_subset _
  isOf := root.isOf_target index

end Walk

namespace Pass

/-- A greater depth limit keeps the entries and the diagnostics about other things. -/
theorem documentFrom_sublist (env : Surroundings) (root : Walk.Root) (mode : PayloadMode)
    (earlier : List Diagnostic) {d d' : ℕ} (hle : d ≤ d') :
    let document (d : ℕ) := documentFrom { diagnostics := earlier } (env.withMaxDepth d) root mode
    (document d).1.entries.Sublist (document d').1.entries ∧
      ((document d).2.diagnostics.filter (!·.isDepthLimit)).Sublist
        ((document d').2.diagnostics.filter (!·.isDepthLimit)) := by
  have h := Walk.filter_outcomes_sublist env hle ∅ (root.target env.index)
  simp only [documentFrom_eq, List.filter_append, List.append_sublist_append_left]
  constructor
  · have hentries := h.filterMap Outcome.entry?
    rwa [← Outcome.entries, ← Outcome.entries, Outcome.entries_filter_not_isDepthLimit,
      Outcome.entries_filter_not_isDepthLimit] at hentries
  · have hdiagnostics := h.filterMap Outcome.diagnostic?
    rwa [← Outcome.diagnostics, ← Outcome.diagnostics, Outcome.diagnostics_filter_not_isDepthLimit,
      Outcome.diagnostics_filter_not_isDepthLimit] at hdiagnostics

/-- With as much room as there are names, nothing new is reported to lie too deep. -/
theorem filter_diagnostics_documentFrom (env : Surroundings) (root : Walk.Root)
    (mode : PayloadMode) (earlier : List Diagnostic)
    (hroom : (root.names env.index).card ≤ env.config.maxDepth) :
    (documentFrom { diagnostics := earlier } env root mode).2.diagnostics.filter (·.isDepthLimit) =
      earlier.filter (·.isDepthLimit) := by
  have h := Walk.not_isDepthLimit (root.classes_subset env.index) hroom (root.known env.index)
    (root.isDepthLimit_target env.index)
  have hnew : (Outcome.diagnostics (root.outcomes env)).filter (·.isDepthLimit) = [] := by
    refine List.filter_eq_nil_iff.mpr fun x hx => ?_
    obtain ⟨o, ho, hox⟩ := List.mem_filterMap.mp hx
    cases o with
    | leaf entry => cases hox
    | skipped d =>
      obtain rfl : d = x := Option.some.inj hox
      exact ne_true_of_eq_false (h _ ho)
  rw [documentFrom_eq, List.filter_append, hnew, List.append_nil]

/-- **The depth limit.** Documenting ends for every depth limit, and on the way the names on the
stack are always pairwise distinct and not more than the limit allows: a walk that is watched
returns the same, and so it is in all passes that it sets. The steps of the walk come to an end
within a number of them that does not depend on the limit, at the stage that holds what is returned.
With a greater limit the entries and the diagnostics about other things are still there in their
order. Limits that are not smaller than the number of class names all give the same result, in which
nothing is reported to lie too deep. -/
theorem documentFrom_withMaxDepth (env : Surroundings) (root : Walk.Root) (mode : PayloadMode)
    (earlier : List Diagnostic) :
    let document (d : ℕ) :=
      documentFrom { diagnostics := earlier } (env.withMaxDepth d) root mode
    let watched (d : ℕ) : List FieldEntry × Walk.Watch :=
      (root.walk (env.withMaxDepth d) : Walk.WatchedWalk _).run
        { pass := { diagnostics := earlier } }
    let stage (d n : ℕ) := (Walk.Stage.step (env.withMaxDepth d))^[n]
      (Walk.Stage.begin (env.withMaxDepth d) root earlier)
    (∀ d, document d = ({ mode, entries := (watched d).1 }, (watched d).2.pass) ∧
        ∀ pass ∈ (watched d).2.seen, pass.enclosing.Nodup ∧ pass.enclosing.length ≤ d) ∧
      (∀ d n, (stage d n).pass.enclosing.Nodup ∧ (stage d n).pass.enclosing.length ≤ d) ∧
      (∃ N, ∀ d, (stage d N).frames = [] ∧
        document d = ({ mode, entries := (stage d N).entries }, (stage d N).pass)) ∧
      (∀ d d', d ≤ d' →
        (document d).1.entries.Sublist (document d').1.entries ∧
          ((document d).2.diagnostics.filter (!·.isDepthLimit)).Sublist
            ((document d').2.diagnostics.filter (!·.isDepthLimit))) ∧
      ∀ d, (root.names env.index).card ≤ d →
        (∀ d', (root.names env.index).card ≤ d' → document d = document d') ∧
          (document d).2.diagnostics.filter (·.isDepthLimit) =
            earlier.filter (·.isDepthLimit) := by
  refine ⟨fun d => ?_, fun d n => ?_, ?_,
    fun d d' hle => documentFrom_sublist env root mode earlier hle,
    fun d hd => ⟨fun d' hd' => ?_, ?_⟩⟩
  · obtain ⟨hresult, hseen⟩ := documentFrom_eq_watched (env.withMaxDepth d) root mode earlier
    exact ⟨hresult, fun pass hp => ⟨(hseen pass hp).nodup, (hseen pass hp).length_le⟩⟩
  · have h := Walk.Stage.isStack_iterate (env.withMaxDepth d) root earlier n
    exact ⟨h.nodup, h.length_le⟩
  · obtain ⟨N, hN⟩ := exists_documentFrom_eq_stage env root mode earlier
    refine ⟨N, fun d => ?_⟩
    obtain ⟨s, rfl, hs⟩ := hN d
    exact hs
  · have h : root.outcomes (env.withMaxDepth d) = root.outcomes (env.withMaxDepth d') :=
      Walk.outcomes_eq_of_card_le (root.classes_subset env.index) hd hd' (root.known env.index)
    simp only [documentFrom_eq, h]
  · exact filter_diagnostics_documentFrom (env.withMaxDepth d) root mode earlier hd

/-- A part of a machine that knows its machine. -/
private def part : ClassDecl where
  name := "plant.Part"
  fields :=
    [{ name := "machine", type := .named "plant.Machine" [] },
      { name := "maker", type := .named "plant.Maker" [] }]

/-- A machine of parts. -/
private def machine : ClassDecl where
  name := "plant.Machine"
  fields := [{ name := "parts", type := .array (.named "plant.Part" []) }]

/-- The maker of a part. -/
private def maker : ClassDecl where
  name := "plant.Maker"
  fields := [{ name := "name", type := .named "java.lang.String" [] }]

/-- What is seen on the stack of a machine, where makers lie too deep, and with room for all. -/
theorem documentFrom_withMaxDepth_machine :
    let env : Surroundings :=
      { index := { classes := [part, machine, maker], nodup_names := by decide }, config := {} }
    let root : Walk.Root := .declared machine ""
    let document (d : ℕ) := documentFrom {} (env.withMaxDepth d) root .responseBody
    let trail (d : ℕ) := ((((root.walk (env.withMaxDepth d) : Walk.WatchedWalk _).run
      { pass := {} }).run).2.seen.map Pass.enclosing).dedup
    trail 2 = [["plant.Part", "plant.Machine"], ["plant.Machine"], []] ∧
      (∀ stack ∈ trail 2, stack.Nodup ∧ stack.length ≤ 2) ∧
      (document 2).2.diagnostics =
        [.cyclicReference "parts.[].machine" "plant.Machine",
          .depthLimitExceeded "parts.[].maker" "plant.Maker" 2] ∧
      (document 3).1.entries.map FieldEntry.path = ["parts.[].maker.name"] ∧
      (root.names env.index).card ≤ 3 ∧ document 3 = document 4 := by
  intro env root document trail
  obtain ⟨hwatched, -, -, -, hsaturated⟩ :=
    documentFrom_withMaxDepth env root .responseBody []
  have hnames : (root.names env.index).card ≤ 3 := by decide
  refine ⟨by decide +kernel, fun stack hstack => ?_, by decide +kernel, by decide +kernel, hnames,
    (hsaturated 3 hnames).1 4 (hnames.trans (Nat.le_succ 3))⟩
  obtain ⟨pass, hpass, rfl⟩ := List.mem_map.mp (List.mem_dedup.mp hstack)
  exact (hwatched 2).2 pass hpass

end Pass

end HandlerDocs
