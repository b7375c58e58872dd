import HandlerDocs.Proofs.Program.Lookup
import Mathlib.Logic.Function.Basic

/-!
# Classes in slots

To answer without a search, an index can be kept as a table: every class has a slot, and for every
full name and every simple name there is the slot of its class. A second class with the same simple
name turns the entry for that name into a mark, and as no class ever leaves the table, it stays one.
A class that comes again under its full name takes the slot that is there, and no entry changes.

After any insertions such a table is the one that can be read off the index
(`SlotTable.ofList_eq`), because one insertion keeps it so (`SlotTable.insert_ofIndex`). Therefore
the table and the index give the same answers (`SlotTable.get?_ofList`).
-/

namespace HandlerDocs

/-- Classes in slots, with the slots by name. -/
structure SlotTable where
  /-- The classes. -/
  slots : List ClassDecl := []
  /-- The slot for a full name. -/
  byName : String → Option Nat := fun _ => none
  /-- The slot for a simple name. Without a slot, the entry is the mark of a name that several
  classes have. -/
  bySimpleName : String → Option (Option Nat) := fun _ => none

namespace SlotTable

/-- Puts a class into the slot for its name, or into a new one when the name is new. -/
def insert (t : SlotTable) (c : ClassDecl) : SlotTable :=
  match t.byName c.name with
  | some slot => { t with slots := t.slots.set slot c }
  | none =>
    let slot := t.slots.length
    { slots := t.slots ++ [c]
      byName := Function.update t.byName c.name (some slot)
      bySimpleName := Function.update t.bySimpleName c.simpleName
        (some (if (t.bySimpleName c.simpleName).isSome then none else some slot)) }

/-- The table of a list of classes, inserted one after the other. -/
def ofList (classes : List ClassDecl) : SlotTable :=
  classes.foldl insert {}

/-- The class in the slot for a full name, or else in the slot for a simple name. -/
def get? (t : SlotTable) (name : String) : Option ClassDecl :=
  match t.byName name with
  | some slot => t.slots[slot]?
  | none => if isQualified name then none else (t.bySimpleName name).join.bind (t.slots[·]?)

/-! ### The table of an index -/

/-- Where full names with a simple name stand. -/
def positions (names : List String) (simple : String) : List Nat :=
  (names.zipIdx.filter (simpleName ·.1 == simple)).map Prod.snd

/-- The entry for a simple name whose full names stand at some positions. -/
def slotFor : List Nat → Option (Option Nat)
  | [] => none
  | [slot] => some (some slot)
  | _ => some none

/-- The table of some slots, given the full names in them. -/
def withNames (slots : List ClassDecl) (names : List String) : SlotTable where
  slots
  byName name := names.findIdx? (· == name)
  bySimpleName simple := slotFor (positions names simple)

/-- The table that is read off an index. -/
def ofIndex (index : ClassIndex) : SlotTable :=
  withNames index.classes (index.classes.map ClassDecl.name)

theorem positions_concat (names : List String) (name simple : String) :
    positions (names ++ [name]) simple =
      positions names simple ++ if simpleName name = simple then [names.length] else [] := by
  rw [positions, List.zipIdx_append, List.filter_append, List.map_append]
  by_cases h : simpleName name = simple <;> simp [positions, h]

theorem slotFor_concat (slots : List Nat) (slot : Nat) :
    slotFor (slots ++ [slot]) = some (if (slotFor slots).isSome then none else some slot) := by
  rcases slots with _ | ⟨s, _ | ⟨s', more⟩⟩ <;> rfl

/-- Where a name is, its class is exchanged in its place, and otherwise it is added. -/
theorem replaceOrAdd_eq (c : ClassDecl) (classes : List ClassDecl) :
    ClassIndex.replaceOrAdd c classes =
      match (classes.map ClassDecl.name).findIdx? (· == c.name) with
      | some slot => classes.set slot c
      | none => classes ++ [c] := by
  induction classes with
  | nil => rfl
  | cons d rest ih =>
    rw [ClassIndex.replaceOrAdd, List.map_cons, List.findIdx?_cons, ih]
    by_cases h : d.name = c.name
    · simp [h]
    · rw [if_neg h, if_neg (by simpa using h)]
      cases (rest.map ClassDecl.name).findIdx? (· == c.name) <;> rfl

/-! ### Insertions -/

variable {slots : List ClassDecl} {names : List String} {c : ClassDecl}

/-- A class whose name has a slot is put there. -/
theorem insert_withNames_of_some {slot : Nat} (h : names.findIdx? (· == c.name) = some slot) :
    (withNames slots names).insert c = withNames (slots.set slot c) names := by
  simp only [insert, withNames, h]

/-- The slots for full names when there is one more. -/
private theorem update_findIdx? {name : String} (h : names.findIdx? (· == name) = none)
    (other : String) :
    Function.update (fun other => names.findIdx? (· == other)) name (some names.length) other =
      (names ++ [name]).findIdx? (· == other) := by
  rw [List.findIdx?_append]
  by_cases heq : other = name
  · rw [heq, Function.update_self, h]
    simp
  · rw [Function.update_of_ne heq]
    simp [Ne.symm heq]

/-- The entries for simple names when there is one more full name. -/
private theorem update_slotFor (names : List String) (name simple : String) :
    Function.update (fun simple => slotFor (positions names simple)) (simpleName name)
        (some (if (slotFor (positions names (simpleName name))).isSome then none
          else some names.length)) simple =
      slotFor (positions (names ++ [name]) simple) := by
  rw [positions_concat]
  by_cases heq : simple = simpleName name
  · rw [heq, Function.update_self, if_pos rfl, slotFor_concat]
  · rw [Function.update_of_ne heq, if_neg (Ne.symm heq), List.append_nil]

/-- A class with a new name gets a new slot. -/
theorem insert_withNames_of_none (h : names.findIdx? (· == c.name) = none)
    (hlength : slots.length = names.length) :
    (withNames slots names).insert c = withNames (slots ++ [c]) (names ++ [c.name]) := by
  simp only [insert, withNames, h, hlength, ClassDecl.simpleName]
  congr
  · exact funext (update_findIdx? h)
  · exact funext (update_slotFor names c.name)

/-- An insertion into the table of an index gives the table of the index after the insertion. -/
theorem insert_ofIndex (index : ClassIndex) (c : ClassDecl) :
    (ofIndex index).insert c = ofIndex (index.insert c) := by
  have hclasses : (index.insert c).classes = _ := replaceOrAdd_eq c index.classes
  have hnames : (index.insert c).classes.map ClassDecl.name = _ :=
    ClassIndex.map_name_replaceOrAdd c index.classes
  rw [ofIndex, ofIndex, hnames, hclasses]
  cases hslot : (index.classes.map ClassDecl.name).findIdx? (· == c.name) with
  | some slot =>
    have hmem : c.name ∈ index.classes.map ClassDecl.name := by
      obtain ⟨hlt, hname, -⟩ := List.findIdx?_eq_some_iff_getElem.mp hslot
      exact beq_iff_eq.mp hname ▸ List.getElem_mem hlt
    rw [insert_withNames_of_some hslot, if_pos hmem]
  | none =>
    have hmem : c.name ∉ index.classes.map ClassDecl.name := by
      intro hmem
      have hne := List.findIdx?_eq_none_iff.mp hslot c.name hmem
      rw [beq_self_eq_true] at hne
      exact Bool.noConfusion hne
    rw [insert_withNames_of_none hslot (List.length_map _).symm, if_neg hmem]

/-- After any insertions, the table is the one that is read off the index. -/
theorem ofList_eq (inserts : List ClassDecl) : ofList inserts = ofIndex (.ofList inserts) := by
  induction inserts using List.reverseRecOn with
  | nil => rfl
  | append_singleton inserts c ih =>
    rw [ClassIndex.ofList_concat, ← insert_ofIndex, ← ih, ofList, List.foldl_append]
    rfl

/-! ### Answers -/

/-- A full name finds the class in its slot. -/
theorem find?_name_eq (classes : List ClassDecl) (name : String) :
    classes.find? (·.name == name) =
      ((classes.map ClassDecl.name).findIdx? (· == name)).bind (classes[·]?) := by
  induction classes with
  | nil => rfl
  | cons d rest ih =>
    rw [List.find?_cons, List.map_cons, List.findIdx?_cons, ih]
    by_cases h : d.name = name
    · simp [h]
    · rw [beq_eq_false_iff_ne.mpr h, if_neg Bool.false_ne_true, Option.bind_map]
      rfl

/-- A simple name that only one class has finds the class in its slot. -/
theorem only?_simpleName_eq (classes : List ClassDecl) (simple : String) :
    ClassIndex.only? (classes.filter (·.simpleName == simple)) =
      (slotFor (positions (classes.map ClassDecl.name) simple)).join.bind (classes[·]?) := by
  -- Both sides look at the same classes, with the slots in which they are.
  have hclasses : classes.filter (·.simpleName == simple) =
      (classes.zipIdx.filter (·.1.simpleName == simple)).map Prod.fst := by
    conv_lhs => rw [← List.zipIdx_map_fst 0 classes, List.filter_map]
    rfl
  have hpositions : positions (classes.map ClassDecl.name) simple =
      (classes.zipIdx.filter (·.1.simpleName == simple)).map Prod.snd := by
    rw [positions, List.zipIdx_map, List.filter_map, List.map_map]
    rfl
  have hslots : ∀ p ∈ classes.zipIdx.filter (·.1.simpleName == simple),
      classes[p.2]? = some p.1 :=
    fun p hp => List.mem_zipIdx_iff_getElem?.mp (List.mem_of_mem_filter hp)
  rw [hclasses, hpositions]
  generalize classes.zipIdx.filter (·.1.simpleName == simple) = found at hslots ⊢
  rcases found with _ | ⟨p, _ | _⟩
  · rfl
  · rw [List.forall_mem_singleton] at hslots
    exact hslots.symm
  · rfl

/-- The table of an index gives the answers of the index. -/
theorem get?_ofIndex (index : ClassIndex) (name : String) :
    (ofIndex index).get? name = index.get? name := by
  rw [ClassIndex.get?_eq, find?_name_eq, only?_simpleName_eq, get?]
  cases hslot : (index.classes.map ClassDecl.name).findIdx? (· == name) with
  | none => simp only [ofIndex, withNames, hslot]; rfl
  | some slot =>
    obtain ⟨hlt, -⟩ := List.findIdx?_eq_some_iff_getElem.mp hslot
    rw [List.length_map] at hlt
    simp only [ofIndex, withNames, hslot, Option.bind_some, List.getElem?_eq_getElem hlt]

/-- After any insertions, the table gives the answers of the index. -/
theorem get?_ofList (inserts : List ClassDecl) (name : String) :
    (ofList inserts).get? name = (ClassIndex.ofList inserts).get? name := by
  rw [ofList_eq, get?_ofIndex]

end SlotTable

end HandlerDocs
