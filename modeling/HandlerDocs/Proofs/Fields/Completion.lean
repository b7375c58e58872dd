import HandlerDocs.Proofs.Fields.Comparison

/-!
# Completing an index

A class may be missing from an index, and documentation then leaves out what is of its type. When a
class is inserted whose simple name is new, every name that found a class before still finds the
same class (`ClassIndex.get?_insert_of_new`). So nothing that was documented or left out changes,
except at the places at which a type had no known class: some of them are filled with outcomes of
the new class (`Outcome.Fills`). On the chains of classes that there were before, the new class does
not occur, so it neither closes a cycle on them nor takes up room.

* `Pass.documentFrom_insert` — documentations before and after an insertion.
-/

namespace HandlerDocs

/-- Whether a diagnostic is about a type without a known class. -/
def Diagnostic.isUnresolvedType : Diagnostic → Bool
  | .unresolvedType .. => true
  | _ => false

/-! ### Lookup -/

namespace ClassIndex

variable {index : ClassIndex} {c : ClassDecl}

/-- A class whose simple name is new is indexed behind the others. -/
theorem classes_insert_of_new (hnew : ∀ d ∈ index.classes, d.simpleName ≠ c.simpleName) :
    (index.insert c).classes = index.classes ++ [c] := by
  refine replaceOrAdd_of_notMem fun hname => ?_
  obtain ⟨d, hd, hdc⟩ := List.mem_map.mp hname
  exact hnew d hd (congrArg simpleName hdc)

/-- A class whose simple name is new does not take the place of a class that is found by its simple
name. -/
theorem name_ne_of_new (hnew : ∀ d ∈ index.classes, d.simpleName ≠ c.simpleName) {name : String}
    (hname : isQualified name = false) {d : ClassDecl} (hd : d ∈ index.classes)
    (hdn : d.simpleName = name) : c.name ≠ name := by
  rintro rfl
  exact hnew d hd (hdn.trans (simpleName_eq_self hname).symm)

/-- What a name finds, it finds after a class was inserted whose simple name is new. -/
theorem get?_insert_of_new (hnew : ∀ d ∈ index.classes, d.simpleName ≠ c.simpleName)
    {name : String} {d : ClassDecl} (h : index.get? name = some d) :
    (index.insert c).get? name = some d := by
  rw [get?_eq] at h
  rw [get?_eq, classes_insert_of_new hnew, List.find?_append, List.filter_append]
  cases hfull : index.classes.find? (·.name == name) with
  | some e =>
    rw [hfull] at h
    exact h
  | none =>
    rw [hfull] at h
    dsimp only at h
    split at h
    · cases h
    · rename_i hname
      have hmem : d ∈ index.classes ∧ (d.simpleName == name) = true :=
        List.mem_filter.mp (only?_eq_some_iff.mp h ▸ List.mem_singleton_self d)
      have hdn : d.simpleName = name := beq_iff_eq.mp hmem.2
      have hcn : c.name ≠ name := name_ne_of_new hnew (by simpa using hname) hmem.1 hdn
      have hcs : c.simpleName ≠ name := fun hcs => hnew d hmem.1 (hdn.trans hcs.symm)
      simp [hname, hcn, hcs, h]

end ClassIndex

/-! ### Filling -/

namespace Outcome

/-- The second list is the first one, with some of the places at which a type had no known class
filled by other outcomes. -/
inductive Fills : List Outcome → List Outcome → Prop
  /-- Nothing is left. -/
  | nil : Fills [] []
  /-- An outcome stays. -/
  | keep (o : Outcome) {os os' : List Outcome} : Fills os os' → Fills (o :: os) (o :: os')
  /-- A place is filled. -/
  | fill (path typeName : String) (filling : List Outcome) {os os' : List Outcome} :
    Fills os os' → Fills (.skipped (.unresolvedType path typeName) :: os) (filling ++ os')

theorem Fills.refl (os : List Outcome) : Fills os os := by
  induction os with
  | nil => exact .nil
  | cons o os ih => exact .keep o ih

theorem Fills.append {os₁ os₁' os₂ os₂' : List Outcome} (h₁ : Fills os₁ os₁')
    (h₂ : Fills os₂ os₂') : Fills (os₁ ++ os₂) (os₁' ++ os₂') := by
  induction h₁ with
  | nil => exact h₂
  | keep o _ ih => exact .keep o ih
  | fill path typeName filling _ ih =>
    rw [List.append_assoc]
    exact .fill path typeName filling ih

theorem Fills.single (path typeName : String) (filling : List Outcome) :
    Fills [.skipped (.unresolvedType path typeName)] filling := by
  simpa using Fills.fill path typeName filling .nil

/-- Filling keeps the entries. -/
theorem Fills.entries_sublist {os os' : List Outcome} (h : Fills os os') :
    (entries os).Sublist (entries os') := by
  induction h with
  | nil => exact List.Sublist.refl _
  | @keep o os os' _ ih =>
    rw [entries_cons o os, entries_cons o os']
    exact ih.append_left _
  | fill path typeName filling _ ih =>
    rw [entries_append]
    exact ih.trans (List.sublist_append_right _ _)

/-- Filling keeps the diagnostics about other things. -/
theorem Fills.diagnostics_sublist {os os' : List Outcome} (h : Fills os os') :
    ((diagnostics os).filter (!·.isUnresolvedType)).Sublist
      ((diagnostics os').filter (!·.isUnresolvedType)) := by
  induction h with
  | nil => exact List.Sublist.refl _
  | @keep o os os' _ ih =>
    rw [diagnostics_cons o os, diagnostics_cons o os', List.filter_append, List.filter_append]
    exact ih.append_left _
  | fill path typeName filling _ ih =>
    -- The diagnostic of the place that is filled is not among those that are compared.
    rw [diagnostics_append, List.filter_append]
    exact ih.trans (List.sublist_append_right _ _)

/-- Where every type has a known class, there is nothing to fill. -/
theorem Fills.eq_of_forall {os os' : List Outcome} (h : Fills os os')
    (hos : ∀ d ∈ diagnostics os, d.isUnresolvedType = false) : os' = os := by
  induction h with
  | nil => rfl
  | keep o _ ih =>
    rw [diagnostics_cons] at hos
    rw [ih fun d hd => hos d (List.mem_append_right _ hd)]
  | fill path typeName filling _ _ =>
    exact absurd (hos _ List.mem_cons_self) Bool.noConfusion

end Outcome

namespace Walk

theorem isPiecewise_fills : IsPiecewise Outcome.Fills where
  refl := Outcome.Fills.refl
  append := Outcome.Fills.append

variable {index : ClassIndex} {c : ClassDecl}

/-- What a core stood for, it stands for after the insertion, unless its class was not known. -/
theorem Core.compares_insert (hnew : ∀ d ∈ index.classes, d.simpleName ≠ c.simpleName) (k : Core) :
    (k.resolve index).Compares Eq (fun _ _ => True) (k.resolve (index.insert c)) := by
  refine compares_of_named (fun _ => trivial) (fun name arguments => ?_) k
  refine compares_named (fun d d' hd => ?_) (fun d hd => ?_) fun _ _ => trivial
  · rw [hd]
  · exact ⟨d, ClassIndex.get?_insert_of_new hnew hd, rfl⟩

/-- Targets are compared by their cores: what had no known class is filled in any way. -/
theorem compares_target_insert (env' : Surroundings)
    (hnew : ∀ d ∈ index.classes, d.simpleName ≠ c.simpleName) (k : Core) (start path : String)
    (ofLeaf : JsonKind → Outcome) :
    ((k.resolve index).target start path ofLeaf).Compares Eq Outcome.Fills env'
      ((k.resolve (index.insert c)).target start path ofLeaf) :=
  (k.compares_insert hnew).target isPiecewise_fills (fun _ => .refl _)
    fun typeName _ _ _ => .single path typeName _

/-- Documentations before and after the insertion compare: places are filled. -/
theorem comparison_insert (hnew : ∀ d ∈ index.classes, d.simpleName ≠ c.simpleName)
    (config : Config) : Comparison Eq Outcome.Fills ⟨index, config⟩ ⟨index.insert c, config⟩ where
  toIsPiecewise := isPiecewise_fills
  maxDepth_eq := rfl
  name_eq := by
    rintro d _ rfl
    rfl
  fields := by
    rintro d _ start rfl
    exact List.forall₂_same.mpr fun field _ => compares_target_insert _ hnew ..

/-- The insertion fills places among the outcomes of a root. -/
theorem Root.fills_outcomes_insert (hnew : ∀ d ∈ index.classes, d.simpleName ≠ c.simpleName)
    (config : Config) (root : Root) :
    Outcome.Fills (root.outcomes ⟨index, config⟩) (root.outcomes ⟨index.insert c, config⟩) := by
  refine (comparison_insert hnew config).related_outcomes ∅ ?_
  cases root with
  | declared d start => exact .object start (trimDots start) rfl
  | payload type paginated => exact compares_target_insert _ hnew ..

end Walk

/-- **Completing an index.** Inserting a class whose simple name is new keeps the entries, and the
diagnostics about other things than types without a known class, in their order. If there was no
such type, the documentation stays as it is. -/
theorem Pass.documentFrom_insert {index : ClassIndex} {c : ClassDecl}
    (hnew : ∀ d ∈ index.classes, d.simpleName ≠ c.simpleName) (config : Config) (root : Walk.Root)
    (mode : PayloadMode) (earlier : List Diagnostic) :
    let before := documentFrom { diagnostics := earlier } ⟨index, config⟩ root mode
    let after := documentFrom { diagnostics := earlier } ⟨index.insert c, config⟩ root mode
    before.1.entries.Sublist after.1.entries ∧
      (before.2.diagnostics.filter (!·.isUnresolvedType)).Sublist
        (after.2.diagnostics.filter (!·.isUnresolvedType)) ∧
      ((∀ d ∈ before.2.diagnostics, d.isUnresolvedType = false) → after = before) := by
  have h := Walk.Root.fills_outcomes_insert hnew config root
  simp only [documentFrom_eq, List.filter_append, List.append_sublist_append_left]
  refine ⟨h.entries_sublist, h.diagnostics_sublist, fun hknown => ?_⟩
  rw [h.eq_of_forall fun d hd => hknown d (List.mem_append_right earlier hd)]

/-- A purchase with a buyer. -/
private def purchase : ClassDecl where
  name := "market.Purchase"
  fields :=
    [{ name := "number", type := .primitive .long },
      { name := "buyer", type := .named "market.Buyer" [] },
      { name := "follows", type := .named "market.Purchase" [] },
      { name := "note", type := .named "String" [] }]

/-- The buyer of a purchase, with two fields that cannot be documented. -/
private def buyer : ClassDecl where
  name := "market.Buyer"
  fields :=
    [{ name := "name", type := .named "String" [] },
      { name := "purchases", type := .named "java.util.List" [.named "market.Purchase" []] },
      { name := "address", type := .named "market.Address" [] }]

/-- The class of the buyer is inserted, and what it leads to stands between what was there. -/
theorem Pass.documentFrom_insert_buyer :
    let index : ClassIndex := { classes := [purchase], nodup_names := by decide }
    let before := documentFrom {} ⟨index, {}⟩ (.declared purchase "") .requestBody
    let after := documentFrom {} ⟨index.insert buyer, {}⟩ (.declared purchase "") .requestBody
    (∀ d ∈ index.classes, d.simpleName ≠ buyer.simpleName) ∧
      before.1.entries.Sublist after.1.entries ∧
      (before.2.diagnostics.filter (!·.isUnresolvedType)).Sublist
        (after.2.diagnostics.filter (!·.isUnresolvedType)) ∧
      (before.1.entries.map FieldEntry.path, before.2.diagnostics) =
        (["number", "note"],
          [.unresolvedType "buyer" "market.Buyer", .cyclicReference "follows" "market.Purchase"]) ∧
      (after.1.entries.map FieldEntry.path, after.2.diagnostics) =
        (["number", "buyer.name", "note"],
          [.cyclicReference "buyer.purchases" "market.Purchase",
            .unresolvedType "buyer.address" "market.Address",
            .cyclicReference "follows" "market.Purchase"]) := by
  intro index before after
  have hnew : ∀ d ∈ index.classes, d.simpleName ≠ buyer.simpleName := by decide +kernel
  obtain ⟨hentries, hdiagnostics, -⟩ :=
    documentFrom_insert hnew {} (.declared purchase "") .requestBody []
  exact ⟨hnew, hentries, hdiagnostics, by decide +kernel, by decide +kernel⟩

end HandlerDocs
