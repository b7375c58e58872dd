import HandlerDocs.Proofs.Json.Printing
import HandlerDocs.Proofs.Program.Lookup
import HandlerDocs.Proofs.Snapshot.Accepted

/-!
# Saving and reloading

Declarations with well-formed types are read back from their JSON value as they were. What is left
out there is what the records start with, and the order of the pairs is that of the fields, so the
objects are read back pair by pair along the fields of their records (`Json.Tree.Fills`).

* `Declarations.read_toJson` — declarations are read back.
* `Declarations.reload` — declarations and snapshots survive being written and read again.
-/

namespace HandlerDocs

open Json (Tree)

/-! ### Attributes -/

namespace Attributes

/-- A key behind all others is put at the end. -/
theorem insertPair_eq_concat {key : String} (value : String) {pairs : List (String × String)}
    (h : ∀ p ∈ pairs, p.1 < key) : insertPair key value pairs = pairs ++ [(key, value)] := by
  induction pairs with
  | nil => rfl
  | cons p rest ih =>
    rw [List.forall_mem_cons] at h
    obtain ⟨hp, hrest⟩ := h
    have hne : key ≠ p.1 := by
      rintro rfl
      exact String.lt_irrefl _ hp
    have hnlt : ¬ key < p.1 := fun hlt => String.lt_irrefl _ (String.lt_trans hlt hp)
    rw [insertPair, if_neg hne, if_neg hnlt, ih hrest, List.cons_append]

/-- Sorted pairs are kept as they are. -/
theorem pairs_ofList {pairs : List (String × String)}
    (h : pairs.Pairwise (fun p q => p.1 < q.1)) : (ofList pairs).pairs = pairs := by
  induction pairs using List.reverseRecOn with
  | nil => rfl
  | append_singleton pairs p ih =>
    obtain ⟨hpairs, -, hlast⟩ := List.pairwise_append.mp h
    have hsplit : ofList (pairs ++ [p]) = (ofList pairs).insert p.1 p.2 := by
      rw [ofList, List.foldl_append]
      rfl
    calc (ofList (pairs ++ [p])).pairs
      _ = insertPair p.1 p.2 (ofList pairs).pairs := congrArg Attributes.pairs hsplit
      _ = insertPair p.1 p.2 pairs := by rw [ih hpairs]
      _ = pairs ++ [p] :=
        insertPair_eq_concat p.2 fun q hq => hlast q hq p (List.mem_singleton_self p)

theorem eq_of_pairs_eq {a b : Attributes} (h : a.pairs = b.pairs) : a = b := by
  obtain ⟨pairs, sorted⟩ := a
  obtain ⟨pairs', sorted'⟩ := b
  cases h
  rfl

/-- Attributes are the attributes of their pairs. -/
theorem ofList_pairs (a : Attributes) : ofList a.pairs = a :=
  eq_of_pairs_eq (pairs_ofList a.sorted)

end Attributes

/-! ### Objects along the fields of a record -/

/-- A field is filled when its value is read. -/
theorem Record.fill_field {ν ε α β : Type} {key : String} {isRequired : Bool}
    {read : ν → Except ε β} {store : β → α → α} {value : ν} {before : α} {b : β}
    (h : read value = .ok b) :
    (Record.field key isRequired read store).fill value before = .ok (store b before) :=
  fill_field_eq_ok_iff.mpr ⟨b, h, rfl⟩

namespace Json.Tree

variable {α : Type}

/-- The pairs of an object fill the fields of a record one after the other. A field that is not
required can be left out. -/
inductive Fills : List (RecordField Tree JsonProblem α) → List (String × Tree) → α → α → Prop
  | nil (record : α) : Fills [] [] record record
  | pair {field : RecordField Tree JsonProblem α} {fields : List (RecordField Tree JsonProblem α)}
      {value : Tree} {pairs : List (String × Tree)} {before next after : α} :
    field.fill value before = .ok next → Fills fields pairs next after →
      Fills (field :: fields) ((field.key, value) :: pairs) before after
  | skip {field : RecordField Tree JsonProblem α} {fields : List (RecordField Tree JsonProblem α)}
      {pairs : List (String × Tree)} {before after : α} :
    field.isRequired = false → Fills fields pairs before after →
      Fills (field :: fields) pairs before after

/-- Where the fields of a record have distinct keys, each of them is found by its key. -/
theorem field?_of_split {r : Record Tree JsonProblem α}
    (hnodup : (r.fields.map RecordField.key).Nodup)
    {done todo : List (RecordField Tree JsonProblem α)} {field : RecordField Tree JsonProblem α}
    (hsplit : r.fields = done ++ field :: todo) : r.field? field.key = some field := by
  rw [hsplit, List.map_append, List.map_cons, List.nodup_append] at hnodup
  have hdone : done.find? (·.key == field.key) = none := by
    rw [List.find?_eq_none]
    intro f hf heq
    exact hnodup.2.2 _ (List.mem_map_of_mem hf) _ List.mem_cons_self (beq_iff_eq.mp heq)
  have hfield : (field :: todo).find? (·.key == field.key) = some field :=
    List.find?_cons_of_pos (beq_self_eq_true field.key)
  rw [Record.field?, hsplit, List.find?_append, hdone, Option.none_or, hfield]

/-- The pairs that fill the fields of a record from some field on lead to the filled record, when no
required field in front of them is missing. -/
theorem fillEntries_of_fills {r : Record Tree JsonProblem α}
    (hnodup : (r.fields.map RecordField.key).Nodup)
    {todo : List (RecordField Tree JsonProblem α)} {pairs : List (String × Tree)}
    {before after : α} (h : Fills todo pairs before after) :
    ∀ {done : List (RecordField Tree JsonProblem α)} {seen : List String},
      r.fields = done ++ todo → (∀ f ∈ done, f.isRequired = true → f.key ∈ seen) →
        (∀ f ∈ todo, f.key ∉ seen) →
        fillEntries r true seen before (entriesOf pairs) = .ok after := by
  -- The fields of the record are those that are done and those to come. No key of the latter is
  -- among the `seen` ones, and of the former at most those that can be left out are missing there.
  induction h with
  | nil record =>
    intro done seen hsplit hseen _
    have hmissing : r.missing? seen = none := by
      rw [Record.missing?, Option.map_eq_none_iff, List.find?_eq_none]
      intro f hf hmissing
      rw [hsplit, List.append_nil] at hf
      simp only [Bool.and_eq_true, Bool.not_eq_true', List.contains_eq_mem] at hmissing
      exact absurd (hseen f hf hmissing.1) (of_decide_eq_false hmissing.2)
    rw [entriesOf_nil, fillEntries, hmissing]
    rfl
  | @pair field fields value pairs before next after hfill hrest ih =>
    intro done seen hsplit hseen hnew
    have hfield : r.field? field.key = some field := field?_of_split hnodup hsplit
    have hkeys : field.key ∉ fields.map RecordField.key := by
      rw [hsplit, List.map_append, List.map_cons, List.nodup_append] at hnodup
      exact (List.nodup_cons.mp hnodup.2.1).1
    rw [List.append_cons] at hsplit
    rw [List.forall_mem_cons] at hnew
    have hcontains : seen.contains field.key = false := by
      simpa using hnew.1
    have hseen' : ∀ f ∈ done ++ [field], f.isRequired = true → f.key ∈ field.key :: seen := by
      rw [List.forall_mem_append, List.forall_mem_singleton]
      exact ⟨fun f hf hrequired => List.mem_cons_of_mem _ (hseen f hf hrequired),
        fun _ => List.mem_cons_self⟩
    have hnew' : ∀ f ∈ fields, f.key ∉ field.key :: seen := by
      intro f hf hmem
      rcases List.mem_cons.mp hmem with heq | hmem
      · exact hkeys (heq ▸ List.mem_map_of_mem hf)
      · exact hnew.2 f hf hmem
    rw [entriesOf_cons, fillEntries]
    simp only [readKey, bind, Except.bind, hfield, hcontains, hfill, ih hsplit hseen' hnew',
      Bool.false_eq_true, if_false]
  | @skip field fields pairs before after hoptional hrest ih =>
    intro done seen hsplit hseen hnew
    rw [List.append_cons] at hsplit
    rw [List.forall_mem_cons] at hnew
    have hseen' : ∀ f ∈ done ++ [field], f.isRequired = true → f.key ∈ seen := by
      rw [List.forall_mem_append, List.forall_mem_singleton]
      exact ⟨hseen, fun hrequired => absurd (hoptional.symm.trans hrequired) Bool.false_ne_true⟩
    exact ih hsplit hseen' hnew.2

/-- An object whose pairs fill the fields of a record is read as the filled record. -/
theorem readRecord_ofPairs {r : Record Tree JsonProblem α}
    (hnodup : (r.fields.map RecordField.key).Nodup) {pairs : List (String × Tree)} {a : α}
    (h : Fills r.fields pairs r.start a) : readRecord r (ofPairs pairs) = .ok a :=
  fillEntries_of_fills hnodup h (List.nil_append _).symm (List.forall_mem_nil _)
    fun _ _ => List.not_mem_nil

/-! ### Lists and attributes -/

/-- A list is read back when its elements are. -/
theorem readList_list {read : Tree → Except JsonProblem α} {f : α → Tree} {items : List α}
    (h : ∀ a ∈ items, read (f a) = .ok a) : readList read (list f items) = .ok items := by
  have hitems : (items.map f).mapM read = .ok items := by
    induction items with
    | nil => rfl
    | cons a items ih =>
      rw [List.forall_mem_cons] at h
      rw [List.map_cons, List.mapM_cons, h.1, ih h.2]
      rfl
  rw [list, readList, hitems]
  rfl

/-- Attributes are read back as their pairs. -/
theorem readTexts_toJson (a : Attributes) : readTexts a.toJson = .ok a.pairs := by
  have hentries (pairs : List (String × String)) :
      ((entriesOf (pairs.map fun pair => (pair.1, text pair.2))).mapM fun entry => do
        let key ← readKey entry.1
        return (key, ← entry.2.readText)) = Except.ok pairs := by
    induction pairs with
    | nil => rfl
    | cons pair pairs ih =>
      rw [List.map_cons, entriesOf_cons, List.mapM_cons, ih]
      rfl
  rw [Attributes.toJson, ofPairs_eq, readTexts, hentries]
  rfl

end Json.Tree

/-! ### Records -/

namespace Declarations

open Json.Tree

theorem readType_toJson {type : TypeRef} (h : type.WellFormed) :
    readType type.toJson = .ok type := by
  have hparse : TypeRef.parse type.text = .ok type := h.parse_text
  have htext : (Format.text type.toJson : Except JsonProblem String) = .ok type.text := rfl
  simp only [readType, htext, bind, Except.bind, hparse]
  rfl

theorem readRecord_field {f : FieldDecl} (h : f.type.WellFormed) :
    readRecord fieldRecord f.toJson = .ok f := by
  obtain ⟨name, type, isStatic⟩ := f
  refine readRecord_ofPairs (by decide) ?_
  refine .pair (Record.fill_field rfl) (.pair (Record.fill_field (readType_toJson h)) ?_)
  cases isStatic with
  | false => exact .skip rfl (.nil _)
  | true => exact .pair (Record.fill_field rfl) (.nil _)

theorem readWord_keyword (kind : ClassKind) :
    readWord kindWords (.text kind.keyword) = .ok kind := by
  cases kind <;> rfl

theorem readRecord_class {c : ClassDecl} (h : ∀ type ∈ c.types, type.WellFormed) :
    readRecord classRecord c.toJson = .ok c := by
  rw [ClassDecl.forall_types] at h
  have hfields : readList (readRecord fieldRecord) (.list FieldDecl.toJson c.fields) =
      .ok c.fields := readList_list fun f hf => readRecord_field (h f hf)
  refine readRecord_ofPairs (by decide) ?_
  exact .pair (Record.fill_field rfl) <| .pair (Record.fill_field (readWord_keyword c.kind)) <|
    .pair (Record.fill_field hfields) (.nil _)

theorem readRecord_mark (a : Annotation) : readRecord markRecord a.toJson = .ok a := by
  obtain ⟨name, attributes⟩ := a
  refine readRecord_ofPairs (by decide) (.pair (Record.fill_field rfl) ?_)
  dsimp only
  cases hempty : attributes.pairs.isEmpty with
  | true =>
    -- Without pairs, the attributes are those of the start.
    have hstart : attributes = .empty := by
      rw [← attributes.ofList_pairs, List.isEmpty_iff.mp hempty]
      rfl
    rw [hstart]
    exact .skip rfl (.nil _)
  | false =>
    have hback : Attributes.ofList attributes.pairs = attributes := attributes.ofList_pairs
    refine .pair (Record.fill_field (readTexts_toJson attributes)) ?_
    rw [hback]
    exact .nil _

theorem readList_marks (annotations : List Annotation) :
    readList (readRecord markRecord) (.list Annotation.toJson annotations) = .ok annotations :=
  readList_list fun a _ => readRecord_mark a

theorem readRecord_parameter {p : Parameter} (h : p.type.WellFormed) :
    readRecord parameterRecord p.toJson = .ok p := by
  refine readRecord_ofPairs (by decide) ?_
  exact .pair (Record.fill_field rfl) <| .pair (Record.fill_field (readType_toJson h)) <|
    .pair (Record.fill_field (readList_marks p.annotations)) (.nil _)

theorem readOptional_returnType {type? : Option TypeRef} (h : ∀ type ∈ type?, type.WellFormed) :
    readOptional readType (type?.elim .null TypeRef.toJson) = .ok type? := by
  cases type? with
  | none => rfl
  | some type =>
    have hread : readType type.toJson = .ok type := readType_toJson (h type rfl)
    exact congrArg (Except.map some) hread

theorem readRecord_handler {h : Handler} (hwell : ∀ type ∈ h.types, type.WellFormed) :
    readRecord handlerRecord h.toJson = .ok h := by
  rw [Handler.forall_types] at hwell
  have hparameters : readList (readRecord parameterRecord) (.list Parameter.toJson h.parameters) =
      .ok h.parameters := readList_list fun p hp => readRecord_parameter (hwell.1 p hp)
  refine readRecord_ofPairs (by decide) ?_
  exact .pair (Record.fill_field rfl) <|
    .pair (Record.fill_field (readList_marks h.controllerAnnotations)) <|
    .pair (Record.fill_field (readList_marks h.annotations)) <|
    .pair (Record.fill_field hparameters) <|
    .pair (Record.fill_field (readOptional_returnType hwell.2)) (.nil _)

/-- Declarations with well-formed types are read back. -/
theorem read_toJson {d : Declarations} (h : d.WellFormed) : read d.toJson = .ok d := by
  rw [WellFormed, forall_types] at h
  have hclasses : readList (readRecord classRecord) (.list ClassDecl.toJson d.classes) =
      .ok d.classes := readList_list fun c hc => readRecord_class (h.1 c hc)
  have hhandlers : readList (readRecord handlerRecord) (.list Handler.toJson d.handlers) =
      .ok d.handlers := readList_list fun handler hh => readRecord_handler (h.2 handler hh)
  refine readRecord_ofPairs (by decide) ?_
  exact .pair (Record.fill_field hclasses) (.pair (Record.fill_field hhandlers) (.nil _))

end Declarations

/-! ### Plain values -/

theorem Json.Tree.IsPlain.list {α : Type} {f : α → Tree} {items : List α}
    (h : ∀ a ∈ items, (f a).IsPlain) : (Tree.list f items).IsPlain :=
  .array (List.forall_mem_map.mpr h)

theorem FieldDecl.isPlain_toJson (f : FieldDecl) : f.toJson.IsPlain := by
  refine .object (List.forall_mem_append.mpr ⟨?_, ?_⟩)
  · simp only [List.forall_mem_cons]
    exact ⟨.text _, .text _, List.forall_mem_nil _⟩
  · cases f.isStatic with
    | false => exact List.forall_mem_nil _
    | true => exact List.forall_mem_singleton.mpr (.truth true)

theorem ClassDecl.isPlain_toJson (c : ClassDecl) : c.toJson.IsPlain := by
  refine .object ?_
  simp only [List.forall_mem_cons]
  exact ⟨.text _, .text _, .list fun f _ => f.isPlain_toJson, List.forall_mem_nil _⟩

theorem Annotation.isPlain_toJson (a : Annotation) : a.toJson.IsPlain := by
  refine .object (List.forall_mem_append.mpr ⟨List.forall_mem_singleton.mpr (.text _), ?_⟩)
  split
  · exact List.forall_mem_nil _
  · refine List.forall_mem_singleton.mpr (.object (List.forall_mem_map.mpr ?_))
    exact fun pair _ => .text pair.2

theorem Parameter.isPlain_toJson (p : Parameter) : p.toJson.IsPlain := by
  refine .object ?_
  simp only [List.forall_mem_cons]
  exact ⟨.text _, .text _, .list fun a _ => a.isPlain_toJson, List.forall_mem_nil _⟩

theorem Handler.isPlain_toJson (h : Handler) : h.toJson.IsPlain := by
  have hreturn : (h.returnType.elim Tree.null TypeRef.toJson).IsPlain := by
    cases h.returnType with
    | none => exact .null
    | some type => exact .text _
  refine .object ?_
  simp only [List.forall_mem_cons]
  exact ⟨.text _, .list fun a _ => a.isPlain_toJson, .list fun a _ => a.isPlain_toJson,
    .list fun p _ => p.isPlain_toJson, hreturn, List.forall_mem_nil _⟩

/-- The JSON value of declarations is plain. -/
theorem Declarations.isPlain_toJson (d : Declarations) : d.toJson.IsPlain := by
  refine .object ?_
  simp only [List.forall_mem_cons]
  exact ⟨.list fun c _ => c.isPlain_toJson, .list fun h _ => h.isPlain_toJson,
    List.forall_mem_nil _⟩

/-! ### Snapshots -/

namespace Snapshot

/-- A snapshot is the snapshot of its declarations. -/
theorem ofDeclarations_declarations (s : Snapshot) : ofDeclarations s.declarations = s := by
  obtain ⟨index, handlers⟩ := s
  exact congrArg (Snapshot.mk · handlers) index.ofList_classes

/-- The declarations of a snapshot have no other types than those that it was made of. -/
theorem wellFormed_declarations_ofDeclarations {d : Declarations} (h : d.WellFormed) :
    (ofDeclarations d).declarations.WellFormed := by
  rw [Declarations.WellFormed, Declarations.forall_types] at h ⊢
  exact ⟨fun c hc => h.1 c (ClassIndex.mem_of_mem_ofList hc), h.2⟩

/-- A snapshot in a JSON text is that of the declarations in it. -/
theorem ofJson_eq_ok {text : String} {d : Declarations} (h : Declarations.ofJson text = .ok d) :
    ofJson text = .ok (ofDeclarations d) := by
  rw [ofJson, h]
  rfl

/-- What becomes of a result when its failures are renamed. -/
private theorem exists_of_mapError_map {ε ε' α β : Type} {x : Except ε α} {f : α → β}
    {g : ε → ε'} {b : β} (h : (x.map f).mapError g = .ok b) : ∃ a, x = .ok a ∧ b = f a := by
  cases x with
  | error e => cases h
  | ok a =>
    cases h
    exact ⟨a, rfl, rfl⟩

/-- An accepted snapshot is that of declarations which one of the formats accepts. -/
theorem exists_of_ofText {format : FileFormat} {text : String} {s : Snapshot}
    (h : ofText format text = .ok s) :
    ∃ d, (Declarations.ofJson text = .ok d ∨ Declarations.ofYaml text = .ok d) ∧
      s = ofDeclarations d := by
  cases format with
  | json =>
    obtain ⟨d, hd, rfl⟩ := exists_of_mapError_map h
    exact ⟨d, .inl hd, rfl⟩
  | yaml =>
    obtain ⟨d, hd, rfl⟩ := exists_of_mapError_map h
    exact ⟨d, .inr hd, rfl⟩
  | unknown =>
    rw [ofText, ofJson] at h
    cases hjson : Declarations.ofJson text with
    | ok d =>
      rw [hjson] at h
      cases h
      exact ⟨d, .inl rfl, rfl⟩
    | error e =>
      rw [hjson] at h
      obtain ⟨d, hd, rfl⟩ := exists_of_mapError_map h
      exact ⟨d, .inr hd, rfl⟩

/-- A text that is accepted as JSON is read alike where the format is unknown. -/
theorem ofText_eq_ok {text : String} {s : Snapshot} (h : ofJson text = .ok s) {format : FileFormat}
    (hformat : format ≠ .yaml) : ofText format text = .ok s := by
  cases format with
  | json =>
    rw [ofText, h]
    rfl
  | yaml => exact absurd rfl hformat
  | unknown => rw [ofText, h]

end Snapshot

/-- **Save and reload.** Suppose that plain JSON values can be written and are read back. Then
declarations survive it exactly when all their types are well-formed. Declarations that were read
from any value, in any format, are such, and the declarations of their snapshot, with the classes in
the order of its index, lead to the same snapshot again. In particular this holds of all texts that
are accepted as JSON or as YAML. -/
theorem Declarations.reload (write : Tree → String)
    (hwrite : ∀ v : Tree, v.IsPlain → Json.readText (write v) = (v, true)) :
    (∀ d : Declarations, d.WellFormed ↔ ofJson (write d.toJson) = .ok d) ∧
      (∀ {ν ε : Type} [Format ν ε] [Format.Sound ν] (value : ν) (d : Declarations),
        read value = .ok d →
          d.WellFormed ∧ ofJson (write d.toJson) = .ok d ∧
            ∀ format, format ≠ .yaml →
              Snapshot.ofText format (write (Snapshot.ofDeclarations d).declarations.toJson) =
                .ok (.ofDeclarations d)) ∧
      (∀ text d, ofJson text = .ok d ∨ ofYaml text = .ok d → d.WellFormed) ∧
      ∀ format text s, Snapshot.ofText format text = .ok s →
        ∀ format', format' ≠ .yaml →
          Snapshot.ofText format' (write s.declarations.toJson) = .ok s := by
  have hback (d : Declarations) (hwell : d.WellFormed) : ofJson (write d.toJson) = .ok d := by
    rw [ofJson_eq_ok_iff, hwrite d.toJson d.isPlain_toJson]
    exact ⟨read_toJson hwell, rfl⟩
  have hagain (d : Declarations) (hwell : d.WellFormed) (format : Snapshot.FileFormat)
      (hformat : format ≠ .yaml) :
      Snapshot.ofText format (write (Snapshot.ofDeclarations d).declarations.toJson) =
        .ok (.ofDeclarations d) := by
    -- What is written are the classes of the index and not those that were listed, of which some
    -- may have been replaced.
    have hindexed := Snapshot.wellFormed_declarations_ofDeclarations hwell
    have hjson := Snapshot.ofJson_eq_ok (hback _ hindexed)
    rw [Snapshot.ofDeclarations_declarations] at hjson
    exact Snapshot.ofText_eq_ok hjson hformat
  have haccepted (text : String) (d : Declarations)
      (h : ofJson text = .ok d ∨ ofYaml text = .ok d) : d.WellFormed :=
    h.elim wellFormed_of_ofJson wellFormed_of_ofYaml
  refine ⟨fun d => ⟨hback d, wellFormed_of_ofJson⟩, ?_, haccepted, ?_⟩
  · intro ν ε _ _ value d hread
    have hwell : d.WellFormed := read_yields hread
    exact ⟨hwell, hback d hwell, hagain d hwell⟩
  · intro format text s h format' hformat'
    obtain ⟨d, hd, rfl⟩ := Snapshot.exists_of_ofText h
    exact hagain d (haccepted text d hd) format' hformat'

/-- Declarations in which one class is listed twice. -/
private def colors : Declarations where
  classes := [{ name := "Color" }, { name := "Color", kind := .enumeration }]
  handlers := [{ name := "all", returnType := some (.array (.named "Color" [])) }]

/-- The declarations in YAML, with an anchor for the name of the class and with tags. -/
private def colorsYaml : String :=
  "%TAG !e! !\n---\n" ++
    "classes:\n- name: &color Color\n- name: *color\n  kind: !e!enum\n" ++
    "handlers:\n- name: all\n  return_type: !!str Color []\n"

/-- The declarations are accepted and survive being written in JSON, and so does their snapshot, in
which the class is listed once. -/
theorem Declarations.reload_colors :
    (∀ v : Tree, v.IsPlain → Json.readText v.print = (v, true)) ∧
      ofYaml colorsYaml = .ok colors ∧ colors.WellFormed ∧
      ofJson colors.toJson.print = .ok colors ∧
      ∃ s, Snapshot.ofText .yaml colorsYaml = .ok s ∧
        s.index.classes = [{ name := "Color", kind := .enumeration }] ∧
        Snapshot.ofText .json s.declarations.toJson.print = .ok s := by
  have hprint (v : Tree) (hplain : v.IsPlain) : Json.readText v.print = (v, true) :=
    Json.readText_print hplain
  obtain ⟨hsurvives, -, haccepted, hreload⟩ := Declarations.reload Tree.print hprint
  have hyaml : ofYaml colorsYaml = .ok colors := by decide +kernel
  have hwell : colors.WellFormed := haccepted colorsYaml colors (.inr hyaml)
  have htext : Snapshot.ofText .yaml colorsYaml = .ok (.ofDeclarations colors) := by
    rw [Snapshot.ofText, Snapshot.ofYaml, hyaml]
    rfl
  refine ⟨hprint, hyaml, hwell, (hsurvives colors).mp hwell, _, htext, by decide +kernel, ?_⟩
  exact hreload .yaml colorsYaml _ htext .json (by decide)

end HandlerDocs
