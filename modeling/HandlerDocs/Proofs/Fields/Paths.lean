import HandlerDocs.Proofs.Fields.Unfolding
import Mathlib.Data.List.Pairwise

/-!
# Paths identify fields

The path of an entry is written without any structure: names, dots and marks one behind the other.
It can still be read back, because a name has no dot: what stands in front of the first dot behind
`start` is the name of a field (`takeWhile_of_isAtOrBelow`). All entries below a field are at or
below the path of that field (`isAtOrBelow_of_mem_paths_ofField`), so that entries below different
fields of a class are kept apart by the first name behind `start`, and entries below the same field
are kept apart inside of the class that it leads to (`pairwise_apart`).

* `documentFrom_paths` — no path occurs twice, and no path goes on behind another one.
-/

namespace HandlerDocs

/-! ### Paths below paths -/

/-- Whether a path is another one, or goes on behind it with a dot. -/
def IsAtOrBelow (base path : String) : Prop :=
  path = base ∨ ∃ rest, path = base ++ "." ++ rest

theorem IsAtOrBelow.trans {a b c : String} (hab : IsAtOrBelow a b) (hbc : IsAtOrBelow b c) :
    IsAtOrBelow a c := by
  rcases hab with rfl | ⟨r, rfl⟩
  · exact hbc
  · rcases hbc with rfl | ⟨r', rfl⟩
    · exact .inr ⟨r, rfl⟩
    · exact .inr ⟨r ++ "." ++ r', by simp only [String.append_assoc]⟩

/-- Nothing goes on behind itself. -/
theorem ne_append_dot (p rest : String) : p ≠ p ++ "." ++ rest := by
  intro h
  have hlength := congrArg String.length h
  have hdot : ".".length = 1 := rfl
  rw [String.length_append, String.length_append, hdot] at hlength
  omega

/-- What stands in front of the first dot behind `start` is a name without dots. -/
theorem takeWhile_of_isAtOrBelow {start name path : String} (hname : '.' ∉ name.toList)
    (h : IsAtOrBelow (start ++ name) path) :
    (path.toList.drop start.toList.length).takeWhile (· != '.') = name.toList := by
  have hbehind (r : List Char) (hr : r.takeWhile (· != '.') = [])
      (hpath : path.toList = start.toList ++ (name.toList ++ r)) :
      (path.toList.drop start.toList.length).takeWhile (· != '.') = name.toList := by
    rw [hpath, List.drop_left, Text.takeWhile_append_of_no_dot hname, hr, List.append_nil]
  rcases h with rfl | ⟨rest, rfl⟩
  · exact hbehind [] rfl (by simp)
  · exact hbehind ('.' :: rest.toList) (by simp) (by simp)

/-- Two paths of which neither is at or below the other. -/
def Apart (p q : String) : Prop :=
  ¬ IsAtOrBelow p q ∧ ¬ IsAtOrBelow q p

instance : Std.Symm Apart where
  symm _ _ h := ⟨h.2, h.1⟩

/-- What is below different names is apart. -/
theorem apart_of_ne {start name name' p q : String} (hname : '.' ∉ name.toList)
    (hname' : '.' ∉ name'.toList) (hne : name ≠ name') (hp : IsAtOrBelow (start ++ name) p)
    (hq : IsAtOrBelow (start ++ name') q) : Apart p q := by
  have key {path : String} (h : IsAtOrBelow (start ++ name) path)
      (h' : IsAtOrBelow (start ++ name') path) : False := by
    refine hne (String.ext ?_)
    rw [← takeWhile_of_isAtOrBelow hname h, ← takeWhile_of_isAtOrBelow hname' h']
  exact ⟨fun hpq => key (hp.trans hpq) hq, fun hqp => key hp (hq.trans hqp)⟩

namespace Walk

/-! ### Entries below a field -/

/-- The paths of the entries of a list of outcomes. -/
def paths (os : List Outcome) : List String :=
  (Outcome.entries os).map FieldEntry.path

theorem paths_flatMap {α : Type} (l : List α) (f : α → List Outcome) :
    paths (l.flatMap f) = l.flatMap fun a => paths (f a) := by
  rw [paths, Outcome.entries, List.filterMap_flatMap, List.map_flatMap]
  rfl

/-- Marks go on behind a path. -/
theorem isAtOrBelow_append_marks (base : String) (layers : Nat) :
    IsAtOrBelow base (base ++ marks layers) := by
  cases layers with
  | zero => exact .inl String.append_empty
  | succ layers => exact .inr ⟨"[]" ++ marks layers, by
      simp only [marks, String.append_assoc]; rfl⟩

variable {env : Surroundings} {onPath : Finset String}

/-- What a target tells of the paths of its entries: below an object they start with what the paths
of its fields start with. -/
def Target.Heads (p : String) : Target → Prop
  | .settled o => p ∈ paths [o]
  | .object _ start _ => ∃ rest, p = start ++ rest

/-- What a field's target tells of a path puts it at or below the path of the field. -/
theorem isAtOrBelow_of_heads_ofField {index : ClassIndex} {start p : String} {field : FieldDecl}
    (h : (Target.ofField index start field).Heads p) : IsAtOrBelow (start ++ field.name) p := by
  rw [Target.ofField] at h
  cases hr : (peel field.type).2.resolve index with
  | leaf jsonType =>
    rw [hr] at h
    obtain rfl := List.mem_singleton.mp h
    exact isAtOrBelow_append_marks _ _
  | object c =>
    rw [hr] at h
    obtain ⟨rest, rfl⟩ := h
    exact (isAtOrBelow_append_marks _ _).trans (.inr ⟨rest, rfl⟩)
  | unresolved typeName =>
    rw [hr] at h
    exact absurd h List.not_mem_nil
  | malformed typeName arguments =>
    rw [hr] at h
    exact absurd h List.not_mem_nil

theorem heads_of_mem_paths {t : Target} :
    ∀ p ∈ paths (outcomes env onPath t), t.Heads p := by
  induction onPath, t using outcomes.induct env with
  | case1 onPath o =>
    rw [outcomes_settled]
    exact fun p hp => hp
  | case2 onPath c start path hname =>
    rw [outcomes, if_pos hname]
    exact fun p hp => absurd hp List.not_mem_nil
  | case3 onPath c start path hname hroom ih =>
    rw [outcomes, if_neg hname, if_pos hroom, paths_flatMap]
    intro p hp
    obtain ⟨field, -, hfield⟩ := List.mem_flatMap.mp hp
    rcases isAtOrBelow_of_heads_ofField (ih field p hfield) with rfl | ⟨rest, rfl⟩
    · exact ⟨field.name, rfl⟩
    · exact ⟨field.name ++ "." ++ rest, by simp only [String.append_assoc]⟩
  | case4 onPath c start path hname hroom =>
    rw [outcomes, if_neg hname, if_neg hroom]
    exact fun p hp => absurd hp List.not_mem_nil

/-- All entries below a field are at or below its path. -/
theorem isAtOrBelow_of_mem_paths_ofField {start p : String} {field : FieldDecl}
    (hp : p ∈ paths (outcomes env onPath (.ofField env.index start field))) :
    IsAtOrBelow (start ++ field.name) p :=
  isAtOrBelow_of_heads_ofField (heads_of_mem_paths p hp)

/-! ### Distinct paths -/

/-- The documented fields of a class have pairwise distinct names without dots. -/
structure HasPlainNames (config : Config) (c : ClassDecl) : Prop where
  nodup : ((visibleFields config c).map FieldDecl.name).Nodup
  no_dot : ∀ field ∈ visibleFields config c, '.' ∉ field.name.toList

instance (config : Config) (c : ClassDecl) : Decidable (HasPlainNames config c) :=
  decidable_of_iff (((visibleFields config c).map FieldDecl.name).Nodup ∧
      ∀ field ∈ visibleFields config c, '.' ∉ field.name.toList)
    ⟨fun h => ⟨h.1, h.2⟩, fun h => ⟨h.nodup, h.no_dot⟩⟩

/-- The paths of the entries below a target are apart from each other. -/
theorem pairwise_apart {classes : List ClassDecl} (hindex : env.index.classes ⊆ classes)
    (hplain : ∀ c ∈ classes, HasPlainNames env.config c) {t : Target} (ht : t.IsOf classes) :
    (paths (outcomes env onPath t)).Pairwise Apart := by
  induction onPath, t using outcomes.induct env with
  | case1 onPath o =>
    rw [outcomes_settled]
    cases o with
    | leaf entry => exact List.pairwise_singleton _ _
    | skipped d => exact List.Pairwise.nil
  | case2 onPath c start path hname =>
    rw [outcomes, if_pos hname]
    exact List.Pairwise.nil
  | case3 onPath c start path hname hroom ih =>
    rw [outcomes, if_neg hname, if_pos hroom, paths_flatMap, List.pairwise_flatMap]
    have hc := hplain c ht
    -- Below one field the induction applies; below two fields their names keep the paths apart.
    refine ⟨fun field _ => ih field ((Target.isOf_ofField _ _ _).mono hindex), ?_⟩
    refine (List.pairwise_map.mp hc.nodup).imp_of_mem fun {field field'} hf hf' hne p hp q hq => ?_
    exact apart_of_ne (hc.no_dot field hf) (hc.no_dot field' hf') hne
      (isAtOrBelow_of_mem_paths_ofField hp) (isAtOrBelow_of_mem_paths_ofField hq)
  | case4 onPath c start path hname hroom =>
    rw [outcomes, if_neg hname, if_neg hroom]
    exact List.Pairwise.nil

end Walk

namespace Pass

/-- **Paths identify fields.** When the documented fields of every class have pairwise distinct
names without dots, no two entries of a documentation have the same path, and no path goes on behind
another one with a dot: what is a leaf is not also documented as an object or a collection. -/
theorem documentFrom_paths (env : Surroundings) (root : Walk.Root) (mode : PayloadMode)
    (earlier : List Diagnostic)
    (hplain : ∀ c ∈ root.classes env.index, Walk.HasPlainNames env.config c) :
    let paths := (documentFrom { diagnostics := earlier } env root mode).1.entries.map
      FieldEntry.path
    paths.Nodup ∧ ∀ p ∈ paths, ∀ q ∈ paths, ∀ rest, q ≠ p ++ "." ++ rest := by
  have hapart : (Walk.paths (root.outcomes env)).Pairwise Apart :=
    Walk.pairwise_apart (root.classes_subset env.index) hplain (root.isOf_target env.index)
  rw [documentFrom_eq]
  refine ⟨hapart.imp fun h heq => h.1 (.inl heq.symm), fun p hp q hq rest => ?_⟩
  by_cases heq : q = p
  · rw [heq]
    exact ne_append_dot p rest
  · exact fun h => (hapart.forall hp hq (Ne.symm heq)).1 (.inr ⟨rest, h⟩)

/-- An order that refers to itself, with lines and a field of the class. -/
private def order : ClassDecl where
  name := "shop.Order"
  fields :=
    [{ name := "VERSION", type := .primitive .int, isStatic := true },
      { name := "id", type := .primitive .long },
      { name := "lines", type := .array (.named "shop.Line" []) },
      { name := "previous", type := .named "shop.Order" [] }]

/-- A line of an order. -/
private def line : ClassDecl where
  name := "shop.Line"
  fields :=
    [{ name := "id", type := .primitive .long },
      { name := "codes", type := .array (.array (.primitive .int)) }]

/-- The paths of a cyclic class with a collection of objects, below a prefix. -/
theorem documentFrom_paths_order :
    let env : Surroundings :=
      { index := { classes := [order, line], nodup_names := by decide }, config := {} }
    let root : Walk.Root := .declared order "[]."
    let paths := (documentFrom {} env root .responseBody).1.entries.map FieldEntry.path
    (∀ c ∈ root.classes env.index, Walk.HasPlainNames env.config c) ∧
      paths = ["[].id", "[].lines.[].id", "[].lines.[].codes.[]"] ∧ paths.Nodup ∧
        ∀ p ∈ paths, ∀ q ∈ paths, ∀ rest, q ≠ p ++ "." ++ rest := by
  intro env root paths
  have hplain : ∀ c ∈ root.classes env.index, Walk.HasPlainNames env.config c := by decide
  exact ⟨hplain, by decide +kernel, documentFrom_paths env root .responseBody [] hplain⟩

end Pass

end HandlerDocs
