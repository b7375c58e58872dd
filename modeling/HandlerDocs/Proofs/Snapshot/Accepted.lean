import HandlerDocs.Proofs.TypeRef.RoundTrip
import HandlerDocs.Snapshot.OfFile

/-!
# Declarations that are accepted

The types in declarations that were read from a text are well-formed, in every format. A record is
filled field by field, so all that its start and the values of its fields have in common stays with
it (`RecordField.Keeps`). Each format has to bring in one fact for each of its readers that take
other readers (`Format.Sound`), and the contents of the records do not depend on the format.

* `Declarations.read_yields` — what is read has well-formed types only.
* `Declarations.wellFormed_of_ofJson`, `Declarations.wellFormed_of_ofYaml` — the two formats.
-/

namespace HandlerDocs

/-! ### Types in declarations -/

/-- The types of the fields of a class. -/
def ClassDecl.types (c : ClassDecl) : List TypeRef :=
  c.fields.map FieldDecl.type

/-- The types of the parameters of a handler, and the type that it returns. -/
def Handler.types (h : Handler) : List TypeRef :=
  h.parameters.map Parameter.type ++ h.returnType.toList

/-- All types in declarations. -/
def Declarations.types (d : Declarations) : List TypeRef :=
  d.classes.flatMap ClassDecl.types ++ d.handlers.flatMap Handler.types

/-- Declarations whose types can all be read from texts. -/
def Declarations.WellFormed (d : Declarations) : Prop :=
  ∀ type ∈ d.types, type.WellFormed

theorem ClassDecl.forall_types {p : TypeRef → Prop} {c : ClassDecl} :
    (∀ type ∈ c.types, p type) ↔ ∀ f ∈ c.fields, p f.type := by
  rw [types, List.forall_mem_map]

theorem Handler.forall_types {p : TypeRef → Prop} {h : Handler} :
    (∀ type ∈ h.types, p type) ↔
      (∀ parameter ∈ h.parameters, p parameter.type) ∧ ∀ type ∈ h.returnType, p type := by
  rw [types, List.forall_mem_append, List.forall_mem_map]
  simp only [Option.mem_toList, Option.mem_def]

theorem Declarations.forall_types {p : TypeRef → Prop} {d : Declarations} :
    (∀ type ∈ d.types, p type) ↔
      (∀ c ∈ d.classes, ∀ type ∈ c.types, p type) ∧
        ∀ h ∈ d.handlers, ∀ type ∈ h.types, p type := by
  rw [types, List.forall_mem_append, List.forall_mem_flatMap, List.forall_mem_flatMap]

/-! ### Readers and their results -/

section

variable {ν ε α β : Type}

/-- Whatever is read has a property. -/
def Yields (read : ν → Except ε α) (p : α → Prop) : Prop :=
  ∀ ⦃value a⦄, read value = .ok a → p a

/-- Filling the field keeps a property of the record. -/
def RecordField.Keeps (field : RecordField ν ε α) (p : α → Prop) : Prop :=
  ∀ ⦃value before after⦄, field.fill value before = .ok after → p before → p after

/-- A field is filled by storing what is read from its value. -/
theorem Record.fill_field_eq_ok_iff {key : String} {isRequired : Bool} {read : ν → Except ε β}
    {store : β → α → α} {value : ν} {before after : α} :
    (Record.field key isRequired read store).fill value before = .ok after ↔
      ∃ b, read value = .ok b ∧ store b before = after := by
  rw [Record.field]
  dsimp only
  cases read value <;> simp [Except.map]

/-- A field keeps what is left untouched by its value. -/
theorem RecordField.Keeps.of_store {p : α → Prop} {key : String} {isRequired : Bool}
    {read : ν → Except ε β} {store : β → α → α} (hstore : ∀ b a, p a → p (store b a)) :
    (Record.field key isRequired read store).Keeps p := by
  intro value before after h hbefore
  obtain ⟨b, -, rfl⟩ := Record.fill_field_eq_ok_iff.mp h
  exact hstore b before hbefore

/-- A field keeps what its values bring with them. -/
theorem RecordField.Keeps.of_yields {p : α → Prop} {q : β → Prop} {key : String}
    {isRequired : Bool} {read : ν → Except ε β} {store : β → α → α} (hread : Yields read q)
    (hstore : ∀ b a, q b → p a → p (store b a)) :
    (Record.field key isRequired read store).Keeps p := by
  intro value before after h hbefore
  obtain ⟨b, hb, rfl⟩ := Record.fill_field_eq_ok_iff.mp h
  exact hstore b before (hread hb) hbefore

/-- A value that was read and is not left out was read. -/
theorem forall_of_map_some {read : ν → Except ε α} {p : α → Prop} (hread : Yields read p)
    {value : ν} {a? : Option α} (h : (read value).map some = .ok a?) : ∀ a ∈ a?, p a := by
  cases hvalue : read value with
  | error e =>
    rw [hvalue] at h
    cases h
  | ok b =>
    rw [hvalue] at h
    cases h
    intro a ha
    cases ha
    exact hread hvalue

/-- In a list that was read, every element was read. -/
theorem forall_of_mapM {read : ν → Except ε α} {p : α → Prop} (hread : Yields read p)
    {values : List ν} {as : List α} (h : values.mapM read = .ok as) : ∀ a ∈ as, p a := by
  induction values generalizing as with
  | nil =>
    cases h
    exact List.forall_mem_nil _
  | cons value values ih =>
    rw [List.mapM_cons] at h
    obtain ⟨a, ha, h⟩ := exists_of_bind_eq_ok h
    obtain ⟨more, hmore, h⟩ := exists_of_bind_eq_ok h
    cases h
    rw [List.forall_mem_cons]
    exact ⟨hread ha, ih hmore⟩

end

/-- The readers of a format hand on what the readers of the parts yield. -/
class Format.Sound (ν : Type) {ε : Type} [Format ν ε] : Prop where
  /-- Lists of what was read. -/
  list {α : Type} {read : ν → Except ε α} {p : α → Prop} :
    Yields read p → Yields (Format.list read) fun as => ∀ a ∈ as, p a
  /-- Values that may be left out. -/
  optional {α : Type} {read : ν → Except ε α} {p : α → Prop} :
    Yields read p → Yields (Format.optional read) fun a? => ∀ a ∈ a?, p a
  /-- Records. -/
  record {α : Type} {r : Record ν ε α} {p : α → Prop} :
    p r.start → (∀ field ∈ r.fields, field.Keeps p) → Yields (Format.record r) p

/-! ### Formats -/

namespace Json.Tree

theorem readList_yields {α : Type} {read : Tree → Except JsonProblem α} {p : α → Prop}
    (hread : Yields read p) : Yields (readList read) fun as => ∀ a ∈ as, p a := by
  intro value as h
  cases value with
  | array items closed =>
    obtain ⟨values, hvalues, h⟩ := exists_of_bind_eq_ok h
    obtain ⟨-, -, h⟩ := exists_of_bind_eq_ok h
    cases h
    exact forall_of_mapM hread hvalues
  | _ => cases h

theorem readOptional_yields {α : Type} {read : Tree → Except JsonProblem α} {p : α → Prop}
    (hread : Yields read p) : Yields (readOptional read) fun a? => ∀ a ∈ a?, p a := by
  intro value a? h
  rw [readOptional.eq_def] at h
  split at h
  · cases h
    exact fun a ha => absurd ha (Option.not_mem_none a)
  · exact forall_of_map_some hread h

/-- Filling a record with the entries of an object keeps what all its fields keep. -/
theorem fillEntries_keeps {α : Type} {r : Record Tree JsonProblem α} {p : α → Prop}
    (hfields : ∀ field ∈ r.fields, field.Keeps p) {closed : Bool} {entries : List (Tree × Tree)} :
    ∀ {seen : List String} {before after : α},
      fillEntries r closed seen before entries = .ok after → p before → p after := by
  induction entries with
  | nil =>
    intro seen before after h hbefore
    obtain ⟨-, -, h⟩ := exists_of_bind_eq_ok h
    split at h
    · cases h
    · cases h
      exact hbefore
  | cons entry rest ih =>
    intro seen before after h hbefore
    obtain ⟨key, -, h⟩ := exists_of_bind_eq_ok h
    split at h
    · next field hfield =>
      have hkeeps : field.Keeps p := hfields field (List.mem_of_find?_eq_some hfield)
      split at h
      · cases h
      · obtain ⟨filled, hfill, h⟩ := exists_of_bind_eq_ok h
        exact ih h (hkeeps hfill hbefore)
    · split at h
      · cases h
      · split at h
        · exact ih h hbefore
        · cases h

/-- Filling a record with the items of an array keeps what all its fields keep. -/
theorem fillItems_keeps {α : Type} {r : Record Tree JsonProblem α} {p : α → Prop}
    {fields : List (RecordField Tree JsonProblem α)} (hfields : ∀ field ∈ fields, field.Keeps p)
    {closed : Bool} :
    ∀ {filled : Nat} {before after : α} {items : List Tree},
      fillItems r closed filled before fields items = .ok after → p before → p after := by
  induction fields with
  | nil =>
    intro filled before after items h hbefore
    cases items with
    | nil =>
      obtain ⟨-, -, h⟩ := exists_of_bind_eq_ok h
      cases h
      exact hbefore
    | cons item items => cases h
  | cons field fields ih =>
    rw [List.forall_mem_cons] at hfields
    intro filled before after items h hbefore
    cases items with
    | nil =>
      rw [fillItems] at h
      obtain ⟨-, -, h⟩ := exists_of_bind_eq_ok h
      split at h
      · cases h
      · exact ih hfields.2 h hbefore
    | cons item items =>
      obtain ⟨next, hfill, h⟩ := exists_of_bind_eq_ok h
      exact ih hfields.2 h (hfields.1 hfill hbefore)

theorem readRecord_yields {α : Type} {r : Record Tree JsonProblem α} {p : α → Prop}
    (hstart : p r.start) (hfields : ∀ field ∈ r.fields, field.Keeps p) :
    Yields (readRecord r) p := by
  intro value a h
  cases value with
  | object entries closed => exact fillEntries_keeps hfields h hstart
  | array items closed => exact fillItems_keeps hfields h hstart
  | _ => cases h

instance : Format.Sound Tree where
  list := readList_yields
  optional := readOptional_yields
  record := readRecord_yields

end Json.Tree

namespace Yaml.Document

theorem readList_yields {α : Type} {read : Document → Except YamlProblem α} {p : α → Prop}
    (hread : Yields read p) : Yields (readList read) fun as => ∀ a ∈ as, p a := by
  intro d as h
  obtain ⟨items, -, h⟩ := exists_of_bind_eq_ok h
  exact forall_of_mapM hread h

theorem readOptional_yields {α : Type} {read : Document → Except YamlProblem α} {p : α → Prop}
    (hread : Yields read p) : Yields (readOptional read) fun a? => ∀ a ∈ a?, p a := by
  intro d a? h
  have hnone (h : Except.ok none = .ok (ε := YamlProblem) a?) : ∀ a ∈ a?, p a := by
    cases h
    exact fun a ha => absurd ha (Option.not_mem_none a)
  rw [readOptional.eq_def] at h
  split at h
  · split at h
    · exact hnone h
    · exact forall_of_map_some hread h
  · split at h
    · exact forall_of_map_some hread h
    · split at h
      · exact hnone h
      · cases h
  · exact forall_of_map_some hread h

/-- Filling a record with the entries of a mapping keeps what all its fields keep. -/
theorem fillEntries_keeps {α : Type} {r : Record Document YamlProblem α} {p : α → Prop}
    (hfields : ∀ field ∈ r.fields, field.Keeps p) {entries : List (Document × Document)} :
    ∀ {seen : List String} {before after : α},
      fillEntries r seen before entries = .ok after → p before → p after := by
  induction entries with
  | nil =>
    intro seen before after h hbefore
    rw [fillEntries] at h
    split at h
    · cases h
    · cases h
      exact hbefore
  | cons entry rest ih =>
    intro seen before after h hbefore
    obtain ⟨key, -, h⟩ := exists_of_bind_eq_ok h
    split at h
    · next field hfield =>
      have hkeeps : field.Keeps p := hfields field (List.mem_of_find?_eq_some hfield)
      split at h
      · cases h
      · obtain ⟨filled, hfill, h⟩ := exists_of_bind_eq_ok h
        exact ih h (hkeeps hfill hbefore)
    · split at h
      · cases h
      · exact ih h hbefore

theorem readRecord_yields {α : Type} {r : Record Document YamlProblem α} {p : α → Prop}
    (hstart : p r.start) (hfields : ∀ field ∈ r.fields, field.Keeps p) :
    Yields (readRecord r) p := by
  intro d a h
  obtain ⟨entries, -, h⟩ := exists_of_bind_eq_ok h
  exact fillEntries_keeps hfields h hstart

instance : Format.Sound Document where
  list := readList_yields
  optional := readOptional_yields
  record := readRecord_yields

end Yaml.Document

/-! ### Declarations -/

namespace Declarations

variable {ν ε : Type} [Format ν ε]

theorem readType_yields : Yields (readType (ν := ν)) TypeRef.WellFormed := by
  intro value type h
  obtain ⟨text, -, h⟩ := exists_of_bind_eq_ok h
  split at h
  · next hparse =>
    cases h
    exact TypeRef.wellFormed_of_parse hparse
  · cases h

variable [Format.Sound ν]

theorem fieldRecord_yields :
    Yields (Format.record (fieldRecord (ν := ν))) fun f => f.type.WellFormed := by
  refine Format.Sound.record TypeRef.WellFormed.wildcard ?_
  simp only [fieldRecord, List.forall_mem_cons]
  refine ⟨?_, ?_, ?_, ?_⟩
  · exact .of_store fun _ _ h => h
  · exact .of_yields readType_yields fun _ _ h _ => h
  · exact .of_store fun _ _ h => h
  · exact List.forall_mem_nil _

theorem classRecord_yields :
    Yields (Format.record (classRecord (ν := ν))) fun c => ∀ type ∈ c.types, type.WellFormed := by
  simp only [ClassDecl.forall_types]
  refine Format.Sound.record (List.forall_mem_nil _) ?_
  simp only [classRecord, List.forall_mem_cons]
  refine ⟨?_, ?_, ?_, ?_⟩
  · exact .of_store fun _ _ h => h
  · exact .of_store fun _ _ h => h
  · exact .of_yields (Format.Sound.list fieldRecord_yields) fun _ _ h _ => h
  · exact List.forall_mem_nil _

theorem parameterRecord_yields :
    Yields (Format.record (parameterRecord (ν := ν))) fun p => p.type.WellFormed := by
  refine Format.Sound.record TypeRef.WellFormed.wildcard ?_
  simp only [parameterRecord, List.forall_mem_cons]
  refine ⟨?_, ?_, ?_, ?_⟩
  · exact .of_store fun _ _ h => h
  · exact .of_yields readType_yields fun _ _ h _ => h
  · exact .of_store fun _ _ h => h
  · exact List.forall_mem_nil _

theorem handlerRecord_yields :
    Yields (Format.record (handlerRecord (ν := ν))) fun h => ∀ type ∈ h.types, type.WellFormed := by
  simp only [Handler.forall_types]
  refine Format.Sound.record
    ⟨List.forall_mem_nil _, fun _ h => absurd h (Option.not_mem_none _)⟩ ?_
  simp only [handlerRecord, List.forall_mem_cons]
  refine ⟨?_, ?_, ?_, ?_, ?_, ?_⟩
  · exact .of_store fun _ _ h => h
  · exact .of_store fun _ _ h => h
  · exact .of_store fun _ _ h => h
  · exact .of_yields (Format.Sound.list parameterRecord_yields) fun _ _ h h' => ⟨h, h'.2⟩
  · exact .of_yields (Format.Sound.optional readType_yields) fun _ _ h h' => ⟨h'.1, h⟩
  · exact List.forall_mem_nil _

/-- Whatever the format is, declarations that are read have well-formed types only. -/
theorem read_yields : Yields (read (ν := ν)) WellFormed := by
  have hrecord : Yields (Format.record (record (ν := ν))) fun d =>
      (∀ c ∈ d.classes, ∀ type ∈ c.types, type.WellFormed) ∧
        ∀ h ∈ d.handlers, ∀ type ∈ h.types, type.WellFormed := by
    refine Format.Sound.record
      ⟨List.forall_mem_nil _, List.forall_mem_nil _⟩ ?_
    simp only [record, List.forall_mem_cons]
    refine ⟨?_, ?_, ?_⟩
    · exact .of_yields (Format.Sound.list classRecord_yields) fun _ _ h h' => ⟨h, h'.2⟩
    · exact .of_yields (Format.Sound.list handlerRecord_yields) fun _ _ h h' => ⟨h'.1, h⟩
    · exact List.forall_mem_nil _
  intro value d h
  exact forall_types.mpr (hrecord h)

/-- Declarations are read from a JSON text when they are read from its value and nothing follows
it. -/
theorem ofJson_eq_ok_iff {text : String} {d : Declarations} :
    ofJson text = .ok d ↔
      read (Json.readText text).1 = .ok d ∧ (Json.readText text).2 = true := by
  rw [ofJson]
  obtain ⟨tree, atEnd⟩ := Json.readText text
  dsimp only
  cases read tree with
  | error e => simp [bind, Except.bind]
  | ok declarations => cases atEnd <;> simp [bind, Except.bind, pure, Except.pure]

theorem wellFormed_of_ofJson {text : String} {d : Declarations} (h : ofJson text = .ok d) :
    d.WellFormed :=
  read_yields (ofJson_eq_ok_iff.mp h).1

theorem wellFormed_of_ofYaml {text : String} {d : Declarations} (h : ofYaml text = .ok d) :
    d.WellFormed := by
  rw [ofYaml] at h
  split at h
  · exact read_yields h
  · cases h

end Declarations

end HandlerDocs
