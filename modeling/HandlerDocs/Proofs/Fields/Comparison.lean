import HandlerDocs.Proofs.Fields.Unfolding
import HandlerDocs.Proofs.Program.Lookup
import Mathlib.Data.List.Forall2

/-!
# Two documentations compared

Some properties are about two documentations that run through different classes. The induction along
the classes on the path is made here, once for all of them. A `Comparison` says which classes of the
two sides belong to each other and how the outcomes are to be related; the relation has to be one
that is shown piece by piece. Then it is enough to look at what a single field leads to.

* `Comparison.related_outcomes` — the outcomes of compared targets are related.
* `Resolution.Compares.target` — targets are compared by what the cores of their types stand for.
* `Core.compares_named` — what a class type stands for is compared by looking up its name.
* `Core.compares_named_of_forall₂` — the same among classes that belong to each other in order.
* `Core.compares_of_named` — all cores are compared when class types are.
-/

namespace HandlerDocs

variable {C : ClassDecl → ClassDecl → Prop}

/-! ### Lookup -/

namespace ClassIndex

theorem rel_find?_name (hname : ∀ c c', C c c' → c'.name = c.name) (name : String)
    {classes classes' : List ClassDecl} (h : List.Forall₂ C classes classes') :
    Option.Rel C (classes.find? (·.name == name)) (classes'.find? (·.name == name)) := by
  induction h with
  | nil => exact .none
  | cons hc _ ih =>
    rw [List.find?_cons, List.find?_cons, hname _ _ hc]
    split
    · exact .some hc
    · exact ih

theorem rel_only? {classes classes' : List ClassDecl} (h : List.Forall₂ C classes classes') :
    Option.Rel C (only? classes) (only? classes') := by
  rcases h with _ | ⟨hc, _ | _⟩
  · exact .none
  · exact .some hc
  · exact .none

/-- Indexes whose classes belong to each other in their order, and have the same names, answer with
classes that belong to each other. -/
theorem rel_get? (hname : ∀ c c', C c c' → c'.name = c.name) {index index' : ClassIndex}
    (h : List.Forall₂ C index.classes index'.classes) (name : String) :
    Option.Rel C (index.get? name) (index'.get? name) := by
  have honly : Option.Rel C (only? (index.classes.filter (·.simpleName == name)))
      (only? (index'.classes.filter (·.simpleName == name))) := by
    refine rel_only? (List.rel_filter (fun c c' hc => ?_) h)
    simp only [ClassDecl.simpleName, hname c c' hc]
  have hfull := rel_find?_name hname name h
  rw [get?_eq, get?_eq]
  revert hfull
  generalize index.classes.find? (·.name == name) = found
  generalize index'.classes.find? (·.name == name) = found'
  rintro (hc | _)
  · exact .some hc
  · dsimp only
    split
    · exact .none
    · exact honly

end ClassIndex

namespace Walk

variable {S : List Outcome → List Outcome → Prop} {env env' : Surroundings}

/-! ### Outcomes -/

/-- A relation between lists of outcomes that is shown piece by piece. -/
structure IsPiecewise (S : List Outcome → List Outcome → Prop) : Prop where
  refl (os : List Outcome) : S os os
  append {os₁ os₁' os₂ os₂' : List Outcome} :
    S os₁ os₁' → S os₂ os₂' → S (os₁ ++ os₂) (os₁' ++ os₂')

theorem isPiecewise_eq : IsPiecewise Eq where
  refl _ := rfl
  append := by
    rintro _ _ _ _ rfl rfl
    rfl

theorem IsPiecewise.flatMap (h : IsPiecewise S) {f f' : FieldDecl → List Outcome}
    {fields fields' : List FieldDecl}
    (hfields : List.Forall₂ (fun field field' => S (f field) (f' field')) fields fields') :
    S (fields.flatMap f) (fields'.flatMap f') := by
  induction hfields with
  | nil => exact h.refl []
  | cons hfield _ ih =>
    rw [List.flatMap_cons, List.flatMap_cons]
    exact h.append hfield ih

/-- Targets that are compared: objects at the same place whose classes belong to each other, or an
outcome and anything that comes to outcomes to which it is related, wherever it lies. -/
inductive Target.Compares (C : ClassDecl → ClassDecl → Prop)
    (S : List Outcome → List Outcome → Prop) (env' : Surroundings) : Target → Target → Prop
  /-- Two objects. -/
  | object {c c' : ClassDecl} (start path : String) :
    C c c' → Compares C S env' (.object c start path) (.object c' start path)
  /-- An outcome and anything that it is related to. -/
  | settled {o : Outcome} {t' : Target} :
    (∀ onPath, S [o] (outcomes env' onPath t')) → Compares C S env' (.settled o) t'

theorem Target.Compares.refl (hS : IsPiecewise S) (hC : ∀ c, C c c) (t : Target) :
    t.Compares C S env' t := by
  cases t with
  | settled o =>
    refine .settled fun onPath => ?_
    rw [outcomes_settled]
    exact hS.refl [o]
  | object c start path => exact .object start path (hC c)

/-- How one documentation compares with another one: classes that belong to each other have the same
name, and their fields lead to targets that are compared. -/
structure Comparison (C : ClassDecl → ClassDecl → Prop) (S : List Outcome → List Outcome → Prop)
    (env env' : Surroundings) : Prop extends IsPiecewise S where
  maxDepth_eq : env'.config.maxDepth = env.config.maxDepth
  name_eq {c c' : ClassDecl} : C c c' → c'.name = c.name
  fields {c c' : ClassDecl} (start : String) : C c c' →
    List.Forall₂ (fun field field' => (Target.ofField env.index start field).Compares C S env'
      (Target.ofField env'.index start field'))
      (visibleFields env.config c) (visibleFields env'.config c')

/-- The outcomes of targets that are compared are related. Both sides have the same names on the
path, so they enter and cut off the same objects. -/
theorem Comparison.related_outcomes (h : Comparison C S env env') (onPath : Finset String)
    {t t' : Target} (ht : t.Compares C S env' t') :
    S (outcomes env onPath t) (outcomes env' onPath t') := by
  induction onPath, t using outcomes.induct env generalizing t' with
  | case1 onPath o =>
    cases ht with
    | settled ho =>
      rw [outcomes_settled]
      exact ho onPath
  | case2 onPath c start path hname =>
    cases ht with
    | object _ _ hc =>
      rw [outcomes, outcomes, h.name_eq hc, if_pos hname, if_pos hname]
      exact h.refl _
  | case3 onPath c start path hname hroom ih =>
    cases ht with
    | object _ _ hc =>
      rw [outcomes, outcomes, h.name_eq hc, h.maxDepth_eq, if_neg hname, if_neg hname, if_pos hroom,
        if_pos hroom]
      exact h.flatMap ((h.fields start hc).imp fun field _ hfield => ih field hfield)
  | case4 onPath c start path hname hroom =>
    cases ht with
    | object _ _ hc =>
      rw [outcomes, outcomes, h.name_eq hc, h.maxDepth_eq, if_neg hname, if_neg hname, if_neg hroom,
        if_neg hroom]
      exact h.refl _

/-! ### Types -/

/-- What cores stand for, compared. What may stand in place of a type without a known class is left
open. -/
inductive Resolution.Compares (C : ClassDecl → ClassDecl → Prop)
    (N : String → Resolution → Prop) : Resolution → Resolution → Prop
  /-- Leaves of the same kind. -/
  | leaf (jsonType : JsonKind) : Compares C N (.leaf jsonType) (.leaf jsonType)
  /-- Objects of classes that belong to each other. -/
  | object {c c' : ClassDecl} : C c c' → Compares C N (.object c) (.object c')
  /-- A type without a known class and what stands in its place. -/
  | unresolved {typeName : String} {r' : Resolution} :
    N typeName r' → Compares C N (.unresolved typeName) r'
  /-- A collection type with a wrong number of arguments. -/
  | malformed (typeName : String) (arguments : Nat) :
    Compares C N (.malformed typeName arguments) (.malformed typeName arguments)

variable {N : String → Resolution → Prop}

/-- Targets are compared by what the cores of their types stand for. -/
theorem Resolution.Compares.target (hS : IsPiecewise S) {r r' : Resolution}
    (h : r.Compares C N r') {start path : String} {ofLeaf ofLeaf' : JsonKind → Outcome}
    (hleaf : ∀ jsonType, S [ofLeaf jsonType] [ofLeaf' jsonType])
    (hunresolved : ∀ typeName r' onPath, N typeName r' →
      S [.skipped (.unresolvedType path typeName)]
        (outcomes env' onPath (r'.target start path ofLeaf'))) :
    (r.target start path ofLeaf).Compares C S env' (r'.target start path ofLeaf') := by
  cases h with
  | leaf jsonType =>
    refine .settled fun onPath => ?_
    rw [Resolution.target, outcomes_settled]
    exact hleaf jsonType
  | object hc => exact .object start path hc
  | unresolved hr => exact .settled fun onPath => hunresolved _ _ onPath hr
  | malformed typeName arguments =>
    refine .settled fun onPath => ?_
    rw [Resolution.target, outcomes_settled]
    exact hS.refl _

/-- What a class type stands for is compared by looking up its name on both sides. -/
theorem Core.compares_named (henum : ∀ c c', C c c' → c'.isEnum = c.isEnum)
    {index index' : ClassIndex} {name : String} {arguments arguments' : List TypeRef}
    (hsome : ∀ c, index.get? name = some c → ∃ c', index'.get? name = some c' ∧ C c c')
    (hnone : isCommonLeaf name = false → index.get? name = none →
      N (TypeRef.named name arguments).text ((single (.named name arguments')).resolve index')) :
    ((single (.named name arguments)).resolve index).Compares C N
      ((single (.named name arguments')).resolve index') := by
  cases hleaf : isCommonLeaf name with
  | true =>
    simp only [resolve, hleaf, if_true]
    exact .leaf _
  | false =>
    cases hget : index.get? name with
    | none =>
      have hmissing : (single (.named name arguments)).resolve index =
          .unresolved (TypeRef.named name arguments).text := by
        simp only [resolve, hleaf, hget, Bool.false_eq_true, if_false]
      rw [hmissing]
      exact .unresolved (hnone hleaf hget)
    | some c =>
      obtain ⟨c', hget', hc⟩ := hsome c hget
      simp only [resolve, hleaf, hget, hget', Bool.false_eq_true, if_false, henum c c' hc]
      split
      · exact .leaf _
      · exact .object hc

/-- What a class type stands for, among classes that belong to each other in their order. -/
theorem Core.compares_named_of_forall₂ (hname : ∀ c c', C c c' → c'.name = c.name)
    (henum : ∀ c c', C c c' → c'.isEnum = c.isEnum) {index index' : ClassIndex}
    (h : List.Forall₂ C index.classes index'.classes) (name : String)
    {arguments arguments' : List TypeRef}
    (hN : N (TypeRef.named name arguments).text
      (.unresolved (TypeRef.named name arguments').text)) :
    ((single (.named name arguments)).resolve index).Compares C N
      ((single (.named name arguments')).resolve index') := by
  have hget := ClassIndex.rel_get? hname h name
  refine compares_named henum (fun c hc => ?_) fun hleaf hc => ?_
  · rw [hc] at hget
    generalize index'.get? name = found at hget
    obtain ⟨hc'⟩ := hget
    exact ⟨_, rfl, hc'⟩
  · have hc' : index'.get? name = none := by
      rw [hc] at hget
      generalize index'.get? name = found at hget
      cases hget
      rfl
    simpa only [resolve, hleaf, hc', Bool.false_eq_true, if_false] using hN

/-- What one core stands for on both sides: only class types are looked up. -/
theorem Core.compares_of_named {index index' : ClassIndex}
    (hN : ∀ typeName, N typeName (.unresolved typeName))
    (hnamed : ∀ name arguments, ((single (.named name arguments)).resolve index).Compares C N
      ((single (.named name arguments)).resolve index')) (k : Core) :
    (k.resolve index).Compares C N (k.resolve index') := by
  match k with
  | .malformed name arguments => exact .malformed name arguments
  | .single (.primitive p) => exact .leaf _
  | .single (.array element) => exact .unresolved (hN _)
  | .single .wildcard => exact .unresolved (hN _)
  | .single (.named name arguments) => exact hnamed name arguments

end Walk

end HandlerDocs
