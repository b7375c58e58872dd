import HandlerDocs.Program.ClassIndex
import Mathlib.Data.List.Induction
import Mathlib.Data.List.Nodup
import Mathlib.Data.List.Perm.Basic

/-!
# Looking up inserted classes

What an index answers is decided by the classes that were inserted into it, whatever came in
between. `lookup?` says so in terms of the insertions alone: the last class with exactly that name,
or else, for a name with a single segment, the last class with the only full name that ends in it.

* `ClassIndex.map_some_classes_ofList` — the classes of an index in their order.
* `ClassIndex.get?_ofList` — the answers of an index.
* `ClassIndex.get?_eq_of_perm` — the order of the classes does not matter for the answers.
-/

namespace HandlerDocs.ClassIndex

/-! ### Insertions by themselves -/

/-- The only element of a list with one element. -/
def only? {α : Type} : List α → Option α
  | [a] => some a
  | _ => none

/-- The names of some classes, each of them where it occurs first. -/
def distinctNames (inserts : List ClassDecl) : List String :=
  (inserts.map ClassDecl.name).eraseDups

/-- The last class with a name. -/
def lastNamed? (inserts : List ClassDecl) (name : String) : Option ClassDecl :=
  inserts.reverse.find? (·.name == name)

/-- What a name finds among inserted classes: the last class with exactly that name, or else, for a
name with a single segment, the last class with the only full name that ends in it. -/
def lookup? (inserts : List ClassDecl) (name : String) : Option ClassDecl :=
  match lastNamed? inserts name with
  | some c => some c
  | none =>
    if isQualified name then none
    else
      (only? ((distinctNames inserts).filter (simpleName · == name))).bind (lastNamed? inserts)

theorem only?_eq_some_iff {α : Type} {l : List α} {a : α} : only? l = some a ↔ l = [a] := by
  rcases l with _ | ⟨b, _ | _⟩ <;> simp [only?]

/-- The order of a list does not matter for its only element. -/
theorem only?_eq_of_perm {α : Type} {l l' : List α} (h : l.Perm l') : only? l = only? l' := by
  ext a
  rw [only?_eq_some_iff, only?_eq_some_iff]
  constructor
  · rintro rfl
    exact List.singleton_perm.mp h |>.symm
  · rintro rfl
    exact List.perm_singleton.mp h

theorem only?_map {α β : Type} (f : α → β) (l : List α) : only? (l.map f) = (only? l).map f := by
  rcases l with _ | ⟨b, _ | _⟩ <;> rfl

/-- An index answers in two steps. -/
theorem get?_eq (index : ClassIndex) (name : String) :
    index.get? name =
      match index.classes.find? (·.name == name) with
      | some c => some c
      | none =>
        if isQualified name then none
        else only? (index.classes.filter (·.simpleName == name)) := by
  rw [get?]
  cases index.classes.find? (·.name == name) with
  | some c => rfl
  | none =>
    dsimp only
    generalize index.classes.filter (·.simpleName == name) = classes
    rcases classes with _ | ⟨c, _ | _⟩ <;> rfl

theorem distinctNames_concat (inserts : List ClassDecl) (c : ClassDecl) :
    distinctNames (inserts ++ [c]) =
      if c.name ∈ inserts.map ClassDecl.name then distinctNames inserts
      else distinctNames inserts ++ [c.name] := by
  rw [distinctNames, List.map_append, List.eraseDups_append, List.map_singleton, List.removeAll,
    List.filter_singleton, List.elem_eq_mem]
  by_cases h : c.name ∈ inserts.map ClassDecl.name
  · rw [if_pos h, decide_eq_true h]
    exact List.append_nil _
  · rw [if_neg h, decide_eq_false h]
    rfl

theorem lastNamed?_concat (inserts : List ClassDecl) (c : ClassDecl) (name : String) :
    lastNamed? (inserts ++ [c]) name =
      if c.name = name then some c else lastNamed? inserts name := by
  rw [lastNamed?, List.reverse_concat, List.find?_cons]
  by_cases h : c.name = name
  · rw [if_pos h, beq_iff_eq.mpr h]
  · rw [if_neg h, beq_eq_false_iff_ne.mpr h]
    rfl

/-! ### Classes of an index -/

/-- Classes with distinct names are found by their names. -/
theorem find?_name_eq_some_iff (index : ClassIndex) {name : String} {c : ClassDecl} :
    index.classes.find? (·.name == name) = some c ↔ c ∈ index.classes ∧ c.name = name := by
  constructor
  · intro h
    have hname := List.find?_some h
    exact ⟨List.mem_of_find?_eq_some h, beq_iff_eq.mp hname⟩
  · rintro ⟨hc, rfl⟩
    have hfound : (index.classes.find? (·.name == c.name)).isSome :=
      List.find?_isSome.mpr ⟨c, hc, beq_self_eq_true _⟩
    obtain ⟨d, hd⟩ := Option.isSome_iff_exists.mp hfound
    have hname := List.find?_some hd
    rw [hd, List.inj_on_of_nodup_map index.nodup_names (List.mem_of_find?_eq_some hd) hc
      (beq_iff_eq.mp hname)]

/-- After an insertion, the name of the class finds it, and other names find what they did. -/
theorem find?_replaceOrAdd (c : ClassDecl) (classes : List ClassDecl) (name : String) :
    (replaceOrAdd c classes).find? (·.name == name) =
      if c.name = name then some c else classes.find? (·.name == name) := by
  induction classes with
  | nil =>
    rw [replaceOrAdd, List.find?_singleton]
    simp
  | cons d rest ih =>
    rw [replaceOrAdd]
    by_cases hd : d.name = c.name
    · rw [if_pos hd, List.find?_cons, List.find?_cons, hd]
      by_cases hc : c.name = name <;> simp [hc, beq_eq_false_iff_ne.mpr]
    · rw [if_neg hd, List.find?_cons, ih, List.find?_cons]
      by_cases hname : d.name = name
      · have hc : c.name ≠ name := fun hc => hd (hname.trans hc.symm)
        simp [hname, hc]
      · simp [beq_eq_false_iff_ne.mpr hname]

theorem ofList_concat (inserts : List ClassDecl) (c : ClassDecl) :
    ofList (inserts ++ [c]) = (ofList inserts).insert c := by
  rw [ofList, List.foldl_append]
  rfl

/-- The names of an index are the names that were inserted, each where it came first. -/
theorem map_name_ofList (inserts : List ClassDecl) :
    (ofList inserts).classes.map ClassDecl.name = distinctNames inserts := by
  induction inserts using List.reverseRecOn with
  | nil => rfl
  | append_singleton inserts c ih =>
    have hmem : c.name ∈ distinctNames inserts ↔ c.name ∈ inserts.map ClassDecl.name :=
      List.mem_eraseDups
    rw [ofList_concat, insert, map_name_replaceOrAdd, ih, distinctNames_concat]
    simp only [hmem]

/-- A name finds the class that was inserted last under it. -/
theorem find?_name_ofList (inserts : List ClassDecl) (name : String) :
    (ofList inserts).classes.find? (·.name == name) = lastNamed? inserts name := by
  induction inserts using List.reverseRecOn with
  | nil => rfl
  | append_singleton inserts c ih =>
    rw [ofList_concat, insert, find?_replaceOrAdd, ih, lastNamed?_concat]

/-- An index lists each name once, where it came first, with the class that was inserted last under
it. -/
theorem map_some_classes_ofList (inserts : List ClassDecl) :
    (ofList inserts).classes.map some = (distinctNames inserts).map (lastNamed? inserts) := by
  rw [← map_name_ofList, List.map_map]
  refine List.map_congr_left fun c hc => ?_
  rw [Function.comp_apply, ← find?_name_ofList]
  exact ((find?_name_eq_some_iff _).mpr ⟨hc, rfl⟩).symm

/-- An index has no other classes than those that were inserted. -/
theorem mem_of_mem_ofList {inserts : List ClassDecl} {c : ClassDecl}
    (h : c ∈ (ofList inserts).classes) : c ∈ inserts := by
  have hlisted : some c ∈ (distinctNames inserts).map (lastNamed? inserts) :=
    map_some_classes_ofList inserts ▸ List.mem_map_of_mem h
  obtain ⟨name, -, hlast⟩ := List.mem_map.mp hlisted
  exact List.mem_reverse.mp (List.mem_of_find?_eq_some hlast)

/-- What an index answers is what the insertions say. -/
theorem get?_ofList (inserts : List ClassDecl) (name : String) :
    (ofList inserts).get? name = lookup? inserts name := by
  have hfull : (distinctNames inserts).filter (simpleName · == name) =
      ((ofList inserts).classes.filter (·.simpleName == name)).map ClassDecl.name := by
    rw [← map_name_ofList, List.filter_map]
    rfl
  have hlast : ∀ c ∈ only? ((ofList inserts).classes.filter (·.simpleName == name)),
      lastNamed? inserts c.name = some c := by
    intro c honly
    have hc : c ∈ (ofList inserts).classes :=
      List.mem_of_mem_filter (only?_eq_some_iff.mp honly ▸ List.mem_singleton_self c)
    rw [← find?_name_ofList]
    exact (find?_name_eq_some_iff _).mpr ⟨hc, rfl⟩
  rw [get?_eq, lookup?, find?_name_ofList, hfull, only?_map, Option.bind_map]
  cases honly : only? ((ofList inserts).classes.filter (·.simpleName == name)) with
  | none => rfl
  | some c =>
    rw [honly] at hlast
    rw [Option.bind_some, Function.comp_apply, hlast c rfl]

/-! ### The order of insertions -/

theorem replaceOrAdd_of_notMem {c : ClassDecl} {classes : List ClassDecl}
    (h : c.name ∉ classes.map ClassDecl.name) : replaceOrAdd c classes = classes ++ [c] := by
  induction classes with
  | nil => rfl
  | cons d rest ih =>
    rw [List.map_cons, List.mem_cons, not_or] at h
    rw [replaceOrAdd, if_neg (Ne.symm h.1), ih h.2, List.cons_append]

/-- Classes with distinct names are indexed as they are. -/
theorem classes_ofList_of_nodup {inserts : List ClassDecl}
    (h : (inserts.map ClassDecl.name).Nodup) : (ofList inserts).classes = inserts := by
  induction inserts using List.reverseRecOn with
  | nil => rfl
  | append_singleton inserts c ih =>
    rw [List.map_append, List.map_singleton, List.nodup_append_comm, List.singleton_append,
      List.nodup_cons] at h
    have hnew : c.name ∉ (ofList inserts).classes.map ClassDecl.name := by
      rw [ih h.2]
      exact h.1
    rw [ofList_concat]
    exact (replaceOrAdd_of_notMem hnew).trans (by rw [ih h.2])

theorem eq_of_classes_eq {index index' : ClassIndex} (h : index.classes = index'.classes) :
    index = index' := by
  obtain ⟨classes, nodup⟩ := index
  obtain ⟨classes', nodup'⟩ := index'
  cases h
  rfl

/-- An index is the index of its classes. -/
theorem ofList_classes (index : ClassIndex) : ofList index.classes = index :=
  eq_of_classes_eq (classes_ofList_of_nodup index.nodup_names)

/-- Indexes with the same classes give the same answers. -/
theorem get?_eq_of_perm {index index' : ClassIndex} (h : index.classes.Perm index'.classes)
    (name : String) : index.get? name = index'.get? name := by
  have hfind : index.classes.find? (·.name == name) = index'.classes.find? (·.name == name) := by
    ext c
    rw [find?_name_eq_some_iff, find?_name_eq_some_iff, h.mem_iff]
  rw [get?_eq, get?_eq, hfind, only?_eq_of_perm (h.filter _)]

/-- Classes with distinct names can be inserted in any order. -/
theorem get?_ofList_eq_of_perm {inserts reordered : List ClassDecl}
    (h : inserts.Perm reordered) (hnodup : (inserts.map ClassDecl.name).Nodup) (name : String) :
    (ofList reordered).get? name = (ofList inserts).get? name := by
  refine get?_eq_of_perm ?_ name
  rw [classes_ofList_of_nodup hnodup,
    classes_ofList_of_nodup ((h.map ClassDecl.name).nodup_iff.mp hnodup)]
  exact h.symm

end HandlerDocs.ClassIndex
