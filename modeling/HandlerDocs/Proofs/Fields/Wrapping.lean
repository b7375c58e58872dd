import HandlerDocs.Proofs.Fields.Stages

/-!
# Payloads and fields of the same type

A payload type is looked at by `Pass.documentRoot`, and the type of a field by the walk through the
class that declares it. The two agree: documenting a class whose only field has a type finds what
documenting a payload of that type finds, with the name of the field in front.

Three facts lie behind it. What paths start with is carried along unchanged
(`outcomes_under`). A class that no other class can lead back to only takes up room
(`entries_outcomes_insert`). And both sides mark the layers of collections in the same way, once as
`[].` in front of a name and once as `.[]` behind one (`marks_append_dot`).

* `Pass.document_wrapper` — a payload and the class around it.
-/

namespace HandlerDocs

/-! ### Paths with something in front -/

/-- The entry with something in front of its path. -/
def FieldEntry.under (base : String) (entry : FieldEntry) : FieldEntry :=
  { entry with path := base ++ entry.path }

/-- The diagnostic with something in front of the path of the field that it is about. -/
def Diagnostic.under (base : String) : Diagnostic → Diagnostic
  | unresolvedType path typeName => .unresolvedType (base ++ path) typeName
  | malformedCollection path typeName arguments =>
    .malformedCollection (base ++ path) typeName arguments
  | cyclicReference path className => .cyclicReference (base ++ path) className
  | depthLimitExceeded path className maxDepth =>
    .depthLimitExceeded (base ++ path) className maxDepth
  | d => d

namespace Outcome

/-- The outcome with something in front of its path. -/
def under (base : String) : Outcome → Outcome
  | leaf entry => .leaf (entry.under base)
  | skipped d => .skipped (d.under base)

/-- Whether an outcome says that a payload has no fields. -/
def isScalar : Outcome → Bool
  | skipped (.scalarPayload _) => true
  | _ => false

theorem entries_map_under (base : String) (os : List Outcome) :
    entries (os.map (under base)) = (entries os).map (FieldEntry.under base) := by
  rw [entries, entries, List.filterMap_map, List.map_filterMap]
  refine List.filterMap_congr fun o _ => ?_
  cases o with
  | leaf entry => rfl
  | skipped d => rfl

theorem entries_flatMap {α : Type} (l : List α) (f : α → List Outcome) :
    entries (l.flatMap f) = l.flatMap fun a => entries (f a) :=
  List.filterMap_flatMap ..

end Outcome

namespace Walk

variable {onPath : Finset String}

/-- The target with something in front of all paths. -/
def Target.under (base : String) : Target → Target
  | .settled o => .settled (o.under base)
  | .object c start path => .object c (base ++ start) (base ++ path)

/-- What stands in front of the fields of a class stands in front of what a field leads to. -/
theorem Target.ofField_under (index : ClassIndex) (base start : String) (field : FieldDecl) :
    ofField index (base ++ start) field = (ofField index start field).under base := by
  cases h : (peel field.type).2.resolve index with
  | leaf jsonType | object c | unresolved typeName | malformed typeName arguments =>
    simp only [ofField, h, Resolution.target, under, Outcome.under, FieldEntry.under,
      Diagnostic.under, String.append_assoc]

/-- What is in front of a target is carried along to all of its outcomes. -/
theorem outcomes_under (env : Surroundings) (base : String) (t : Target) :
    outcomes env onPath (t.under base) = (outcomes env onPath t).map (Outcome.under base) := by
  induction onPath, t using outcomes.induct env with
  | case1 onPath o =>
    rw [Target.under, outcomes_settled, outcomes_settled, List.map_singleton]
  | case2 onPath c start path hname =>
    rw [Target.under, outcomes, outcomes, if_pos hname, if_pos hname, List.map_singleton]
    rfl
  | case3 onPath c start path hname hroom ih =>
    rw [Target.under, outcomes, outcomes, if_neg hname, if_neg hname, if_pos hroom, if_pos hroom,
      List.map_flatMap]
    refine List.flatMap_congr fun field _ => ?_
    rw [Target.ofField_under]
    exact ih field
  | case4 onPath c start path hname hroom =>
    rw [Target.under, outcomes, outcomes, if_neg hname, if_neg hname, if_neg hroom, if_neg hroom,
      List.map_singleton]
    rfl

/-- The path of an object itself is only used to report that it is not entered. -/
theorem entries_outcomes_object (env : Surroundings) (c : ClassDecl) (start path path' : String) :
    Outcome.entries (outcomes env onPath (.object c start path)) =
      Outcome.entries (outcomes env onPath (.object c start path')) := by
  rw [outcomes, outcomes]
  split_ifs <;> rfl

/-! ### A class that is only around -/

/-- A name on the path that no class has takes up the room for one class and changes nothing
else. -/
theorem entries_outcomes_insert {env : Surroundings} {d : ℕ} {name : String}
    (hnew : ∀ c ∈ env.index.classes, c.name ≠ name) {t : Target} (ht : t.IsOf env.index.classes)
    (hpath : name ∉ onPath) :
    Outcome.entries (outcomes (env.withMaxDepth (d + 1)) (insert name onPath) t) =
      Outcome.entries (outcomes (env.withMaxDepth d) onPath t) := by
  induction onPath, t using outcomes.induct (env.withMaxDepth d) with
  | case1 onPath o => rw [outcomes_settled, outcomes_settled]
  | case2 onPath c start path hname =>
    rw [outcomes, outcomes, if_pos hname, if_pos (Finset.mem_insert_of_mem hname)]
  | case3 onPath c start path hname hroom ih =>
    have hne : c.name ≠ name := hnew c ht
    have hname' : c.name ∉ insert name onPath := by
      rw [Finset.mem_insert]
      exact not_or.mpr ⟨hne, hname⟩
    have hroom' : (insert name onPath).card < (env.withMaxDepth (d + 1)).config.maxDepth := by
      rw [Finset.card_insert_of_notMem hpath]
      exact Nat.succ_lt_succ hroom
    rw [outcomes, outcomes, if_neg hname, if_neg hname', if_pos hroom, if_pos hroom',
      Outcome.entries_flatMap, Outcome.entries_flatMap]
    refine List.flatMap_congr fun field _ => ?_
    -- Below the class, the name is still one that nothing leads back to.
    rw [Finset.insert_comm]
    refine ih field (Target.isOf_ofField _ _ _) ?_
    rw [Finset.mem_insert]
    exact not_or.mpr ⟨hne.symm, hpath⟩
  | case4 onPath c start path hname hroom =>
    have hname' : c.name ∉ insert name onPath := by
      rw [Finset.mem_insert]
      exact not_or.mpr ⟨hnew c ht, hname⟩
    have hroom' : ¬ (insert name onPath).card < (env.withMaxDepth (d + 1)).config.maxDepth := by
      rw [Finset.card_insert_of_notMem hpath]
      exact fun hlt => hroom (Nat.lt_of_succ_lt_succ hlt)
    rw [outcomes, outcomes, if_neg hname, if_neg hname', if_neg hroom, if_neg hroom']
    rfl

/-! ### Payloads without fields -/

theorem isScalar_ofField (index : ClassIndex) (start : String) (field : FieldDecl) {o : Outcome}
    (h : Target.ofField index start field = .settled o) : Outcome.isScalar o = false := by
  rw [Target.ofField] at h
  cases hr : (peel field.type).2.resolve index <;> rw [hr] at h <;> cases h <;> rfl

/-- Inside an object nothing is said about payloads. -/
theorem isScalar_of_mem_outcomes {env : Surroundings} {t : Target}
    (ht : ∀ o, t = .settled o → Outcome.isScalar o = false) :
    ∀ o ∈ outcomes env onPath t, Outcome.isScalar o = false := by
  induction onPath, t using outcomes.induct env with
  | case1 onPath o =>
    rw [outcomes_settled]
    exact List.forall_mem_singleton.mpr (ht o rfl)
  | case2 onPath c start path hname =>
    rw [outcomes, if_pos hname]
    exact List.forall_mem_singleton.mpr rfl
  | case3 onPath c start path hname hroom ih =>
    rw [outcomes, if_neg hname, if_pos hroom]
    intro o ho
    obtain ⟨field, -, hfield⟩ := List.mem_flatMap.mp ho
    exact ih field (fun o ho => isScalar_ofField _ _ _ ho) o hfield
  | case4 onPath c start path hname hroom =>
    rw [outcomes, if_neg hname, if_neg hroom]
    exact List.forall_mem_singleton.mpr rfl

/-- The objects of a payload never report that it has no fields. -/
theorem scalarPayload_notMem {env : Surroundings} {c : ClassDecl} {start path : String} :
    ¬ ∃ typeName, Diagnostic.scalarPayload typeName ∈
      Outcome.diagnostics (outcomes env onPath (.object c start path)) := by
  rintro ⟨typeName, h⟩
  obtain ⟨o, ho, heq⟩ := List.mem_filterMap.mp h
  have hscalar := isScalar_of_mem_outcomes (fun _ h => Target.noConfusion h) o ho
  cases o with
  | leaf entry => cases heq
  | skipped d =>
    obtain rfl : d = .scalarPayload typeName := Option.some.inj heq
    cases hscalar

/-! ### Payloads and fields -/

/-- Marks behind a name and in front of one. -/
theorem marks_append_dot (layers : Nat) : marks layers ++ "." = "." ++ rootStart layers := by
  induction layers with
  | zero => rfl
  | succ layers ih =>
    rw [marks, rootStart, String.append_assoc, ih]
    simp only [← String.append_assoc]
    rfl

/-- Whether a type cannot be documented: its class is not known, or it is a collection with a wrong
number of arguments. -/
def Resolution.isMissing : Resolution → Bool
  | .unresolved _ | .malformed _ _ => true
  | .leaf _ | .object _ => false

/-- The object that a field leads to is the one that a payload leads to, behind the name of the
field. -/
theorem entries_outcomes_object_field (env : Surroundings) (c : ClassDecl) (name : String)
    (layers : Nat) (path path' : String) :
    Outcome.entries (outcomes env onPath (.object c (name ++ marks layers ++ ".") path)) =
      (Outcome.entries (outcomes env onPath (.object c (rootStart layers) path'))).map
        (FieldEntry.under (name ++ ".")) := by
  have hstart : name ++ marks layers ++ "." = name ++ "." ++ rootStart layers := by
    rw [String.append_assoc, marks_append_dot, ← String.append_assoc]
  rw [hstart, entries_outcomes_object env c _ path (name ++ "." ++ path'),
    ← Outcome.entries_map_under, ← outcomes_under]
  rfl

/-- What the core of a type stands for decides alike about a payload and a field of that type. -/
theorem entries_payload_field (env : Surroundings) (r : Resolution) (name typeName : String)
    (layers : Nat) :
    let payload := outcomes env onPath (r.target (rootStart layers) (trimDots (rootStart layers))
      fun _ => .skipped (.scalarPayload typeName))
    let path := name ++ marks (layers - 1)
    let field := outcomes env onPath (r.target (name ++ marks layers ++ ".") path
      fun jsonType => .leaf { path, jsonType })
    ((∃ typeName, .scalarPayload typeName ∈ Outcome.diagnostics payload) →
        Outcome.entries payload = [] ∧
          ∃ jsonType, Outcome.entries field = [{ path, jsonType }]) ∧
      ((¬ ∃ typeName, .scalarPayload typeName ∈ Outcome.diagnostics payload) →
        Outcome.entries field =
          (Outcome.entries payload).map (FieldEntry.under (name ++ "."))) ∧
      (r.isMissing → Outcome.entries payload = [] ∧ Outcome.entries field = []) := by
  intro payload path field
  cases r with
  | leaf jsonType =>
    have hpayload : payload = [.skipped (.scalarPayload typeName)] := outcomes_settled ..
    have hfield : field = [.leaf { path, jsonType }] := outcomes_settled ..
    rw [hpayload, hfield]
    refine ⟨fun _ => ⟨rfl, jsonType, rfl⟩, fun h => ?_, fun h => Bool.noConfusion h⟩
    exact absurd ⟨typeName, List.mem_singleton_self _⟩ h
  | object c =>
    refine ⟨fun h => absurd h scalarPayload_notMem, fun _ => ?_, fun h => Bool.noConfusion h⟩
    exact entries_outcomes_object_field ..
  | unresolved missing | malformed missing arguments =>
    -- Nothing is documented on either side, and the only report is about the type.
    have hpayload : Outcome.entries payload = [] := by
      simp only [payload, Resolution.target, outcomes_settled, Outcome.entries_skipped]
    have hfield : Outcome.entries field = [] := by
      simp only [field, Resolution.target, outcomes_settled, Outcome.entries_skipped]
    have hreported : ¬ ∃ typeName, .scalarPayload typeName ∈ Outcome.diagnostics payload := by
      simp [payload, Resolution.target]
    rw [hpayload, hfield]
    exact ⟨fun h => absurd h hreported, fun _ => rfl, fun _ => ⟨rfl, rfl⟩⟩

/-- The only field of a class has one class around it. -/
theorem entries_outcomes_wrapper {env : Surroundings} {d : ℕ} {w : ClassDecl} {f : FieldDecl}
    (hnew : ∀ c ∈ env.index.classes, c.name ≠ w.name) (hfields : w.fields = [f])
    (hstatic : f.isStatic = false) :
    Outcome.entries ((Root.declared w "").outcomes (env.withMaxDepth (d + 1))) =
      Outcome.entries (outcomes (env.withMaxDepth d) ∅ (.ofField env.index "" f)) := by
  have hvisible : w.fields.filter (fun field =>
      !(field.isStatic && (env.withMaxDepth (d + 1)).config.skipStaticFields)) = [f] := by
    rw [hfields]
    simp [hstatic]
  have hroom : (∅ : Finset String).card < (env.withMaxDepth (d + 1)).config.maxDepth :=
    Nat.succ_pos d
  rw [Root.outcomes, Root.target, outcomes, if_neg (Finset.notMem_empty _), if_pos hroom, hvisible,
    List.flatMap_singleton]
  exact entries_outcomes_insert hnew (Target.isOf_ofField _ _ _) (Finset.notMem_empty _)

end Walk

open Walk

/-- **Payloads and fields.** A payload type and a class whose only field is of that type are
documented alike, when the class has a name of its own and there is room for it. If the payload is
reported to have no fields, the field is the only entry, at its name and the marks of its layers but
one. Otherwise the entries of the class are those of the payload behind the name of the field; if
the type cannot be documented, there are none on either side. -/
theorem Pass.document_wrapper (env : Surroundings) (d : ℕ) {w : ClassDecl} {f : FieldDecl}
    (hnew : ∀ c ∈ env.index.classes, c.name ≠ w.name) (hfields : w.fields = [f])
    (hstatic : f.isStatic = false) (mode mode' : PayloadMode) (earlier earlier' : List Diagnostic) :
    let payload := documentRoot { diagnostics := earlier } (env.withMaxDepth d) f.type false mode
    let wrapped := document { diagnostics := earlier' } (env.withMaxDepth (d + 1)) w "" mode'
    ∃ reported, payload.2.diagnostics = earlier ++ reported ∧
      ((∃ typeName, .scalarPayload typeName ∈ reported) →
        payload.1.entries = [] ∧ ∃ jsonType,
          wrapped.1.entries = [{ path := f.name ++ marks ((peel f.type).1 - 1), jsonType }]) ∧
      ((¬ ∃ typeName, .scalarPayload typeName ∈ reported) →
        wrapped.1.entries = payload.1.entries.map (FieldEntry.under (f.name ++ "."))) ∧
      (((peel f.type).2.resolve env.index).isMissing →
        payload.1.entries = [] ∧ wrapped.1.entries = []) := by
  intro payload wrapped
  have hpayload : payload = _ :=
    documentFrom_eq (env.withMaxDepth d) (.payload f.type false) mode earlier
  have hwrapped : wrapped = _ :=
    documentFrom_eq (env.withMaxDepth (d + 1)) (.declared w "") mode' earlier'
  rw [hpayload, hwrapped]
  refine ⟨_, rfl, ?_⟩
  rw [entries_outcomes_wrapper hnew hfields hstatic, Target.ofField, String.empty_append]
  exact entries_payload_field ..

/-- A folder that holds folders. -/
private def folder : ClassDecl where
  name := "disk.Folder"
  fields :=
    [{ name := "size", type := .primitive .long },
      { name := "children", type := .array (.named "disk.Folder" []) },
      { name := "owner", type := .named "disk.Owner" [] }]

/-- The owner of a folder. -/
private def owner : ClassDecl where
  name := "disk.Owner"
  fields := [{ name := "ids", type := .array (.array (.primitive .long)) }]

/-- An array of folders as a field. -/
private def roots : FieldDecl where
  name := "roots"
  type := .array (.named "disk.Folder" [])

/-- A class with nothing but an array of folders. -/
private def archive : ClassDecl where
  name := "disk.Archive"
  fields := [roots]

/-- An array of folders, by itself and as a field, with one class inside of the other. -/
theorem Pass.document_wrapper_archive :
    let env : Surroundings :=
      { index := { classes := [folder, owner], nodup_names := by decide }, config := {} }
    let payload := documentRoot {} (env.withMaxDepth 2) roots.type false .responseBody
    let wrapped := document {} (env.withMaxDepth 3) archive "" .requestBody
    (∀ c ∈ env.index.classes, c.name ≠ archive.name) ∧ archive.fields = [roots] ∧
      roots.isStatic = false ∧
      (payload.1.entries.map FieldEntry.path, payload.2.diagnostics) =
        (["[].size", "[].owner.ids.[]"], [.cyclicReference "[].children" "disk.Folder"]) ∧
      wrapped.1.entries = payload.1.entries.map (FieldEntry.under (roots.name ++ ".")) := by
  intro env payload wrapped
  have hnew : ∀ c ∈ env.index.classes, c.name ≠ archive.name := by decide
  have hpayload : (payload.1.entries.map FieldEntry.path, payload.2.diagnostics) =
      (["[].size", "[].owner.ids.[]"], [.cyclicReference "[].children" "disk.Folder"]) := by
    decide +kernel
  obtain ⟨reported, hreported, -, hwrapped, -⟩ :=
    document_wrapper env 2 hnew (f := roots) rfl rfl .responseBody .requestBody [] []
  have hcyclic : reported = [.cyclicReference "[].children" "disk.Folder"] :=
    hreported.symm.trans (congrArg Prod.snd hpayload)
  refine ⟨hnew, rfl, rfl, hpayload, hwrapped ?_⟩
  rw [hcyclic]
  simp

end HandlerDocs
