import HandlerDocs.Proofs.Fields.Collections
import HandlerDocs.Proofs.Fields.Comparison

/-!
# Arrays and collections

An array and a collection type with one argument are two spellings of the same thing. Any number of
arrays may be respelled as collection types, wherever they stand in the types of fields and payloads
and each by a collection of its own: the layers of a type stay as many as they were, and its core
stays the same but for the arguments of a class type, which only occur in the wording of
diagnostics (`peel_respells`).

* `TypeRef.Respells`, `ClassIndex.Respells`, `Root.Respells` — what is respelled.
* `Diagnostic.withoutTypeText` — a diagnostic but for the wording of a type.
* `Pass.documentFrom_respelled` — documentations of classes and of respelled classes.
-/

namespace HandlerDocs

/-! ### Respelling -/

/-- The second type is the first one with some of its arrays spelled as collection types, in any
place and each with a name of its own. -/
inductive TypeRef.Respells : TypeRef → TypeRef → Prop
  /-- A primitive type. -/
  | primitive (p : Primitive) : Respells (.primitive p) (.primitive p)
  /-- A wildcard. -/
  | wildcard : Respells .wildcard .wildcard
  /-- An array that stays one. -/
  | array {t t' : TypeRef} : Respells t t' → Respells (.array t) (.array t')
  /-- An array that is spelled as a collection type. -/
  | collection {name : String} {t t' : TypeRef} :
    isCollection name = true → Respells t t' → Respells (.array t) (.named name [t'])
  /-- A class type, with arrays among its arguments. -/
  | named (name : String) {arguments arguments' : List TypeRef} :
    List.Forall₂ Respells arguments arguments' →
      Respells (.named name arguments) (.named name arguments')

/-- The second field is the first one with its type respelled. -/
structure FieldDecl.Respells (field field' : FieldDecl) : Prop where
  name_eq : field'.name = field.name
  isStatic_eq : field'.isStatic = field.isStatic
  type : field.type.Respells field'.type

/-- The second class is the first one with the types of its fields respelled. -/
structure ClassDecl.Respells (c c' : ClassDecl) : Prop where
  name_eq : c'.name = c.name
  kind_eq : c'.kind = c.kind
  fields : List.Forall₂ FieldDecl.Respells c.fields c'.fields

/-- The second index holds the classes of the first one, respelled. -/
def ClassIndex.Respells (index index' : ClassIndex) : Prop :=
  List.Forall₂ ClassDecl.Respells index.classes index'.classes

/-- The second root is the first one, respelled. -/
inductive Walk.Root.Respells : Root → Root → Prop
  /-- A class with respelled fields. -/
  | declared {c c' : ClassDecl} (start : String) :
    c.Respells c' → Respells (.declared c start) (.declared c' start)
  /-- A respelled payload type. -/
  | payload {t t' : TypeRef} (paginated : Bool) :
    t.Respells t' → Respells (.payload t paginated) (.payload t' paginated)

/-! ### Wordings -/

/-- The diagnostic without the wording of the type that it is about. -/
def Diagnostic.withoutTypeText : Diagnostic → Diagnostic
  | unresolvedType path _ => .unresolvedType path ""
  | scalarPayload _ => .scalarPayload ""
  | d => d

/-- The outcome without the wording of a type. -/
def Outcome.withoutTypeText : Outcome → Outcome
  | leaf entry => .leaf entry
  | skipped d => .skipped d.withoutTypeText

/-- Two lists of outcomes are the same but for the wording of types. -/
def Outcome.AreAlike (os os' : List Outcome) : Prop :=
  os'.map withoutTypeText = os.map withoutTypeText

theorem Outcome.entries_eq_of_areAlike {os os' : List Outcome} (h : AreAlike os os') :
    entries os' = entries os := by
  have hentries (os : List Outcome) : entries os = entries (os.map withoutTypeText) := by
    rw [entries, entries, List.filterMap_map]
    refine List.filterMap_congr fun o _ => ?_
    cases o <;> rfl
  rw [hentries os', h, ← hentries os]

theorem Outcome.diagnostics_of_areAlike {os os' : List Outcome} (h : AreAlike os os') :
    (diagnostics os').map Diagnostic.withoutTypeText =
      (diagnostics os).map Diagnostic.withoutTypeText := by
  have hdiagnostics (os : List Outcome) : (diagnostics os).map Diagnostic.withoutTypeText =
      diagnostics (os.map withoutTypeText) := by
    rw [diagnostics, diagnostics, List.map_filterMap, List.filterMap_map]
    refine List.filterMap_congr fun o _ => ?_
    cases o <;> rfl
  rw [hdiagnostics os', h, ← hdiagnostics os]

namespace Walk

theorem isPiecewise_areAlike : IsPiecewise Outcome.AreAlike where
  refl _ := rfl
  append h h' := by
    rw [Outcome.AreAlike, List.map_append, List.map_append, h, h']

/-! ### Types -/

/-- Cores that are the same but for the arguments of a class type. -/
inductive Core.Respells : Core → Core → Prop
  /-- A primitive type. -/
  | primitive (p : Primitive) : Respells (.single (.primitive p)) (.single (.primitive p))
  /-- A wildcard. -/
  | wildcard : Respells (.single .wildcard) (.single .wildcard)
  /-- A class type. -/
  | named (name : String) (arguments arguments' : List TypeRef) :
    Respells (.single (.named name arguments)) (.single (.named name arguments'))
  /-- A collection type with a wrong number of arguments. -/
  | malformed (name : String) (arguments : Nat) :
    Respells (.malformed name arguments) (.malformed name arguments)

/-- A collection type that does not have one argument. -/
theorem peel_malformed {name : String} (h : isCollection name = true) {arguments : List TypeRef}
    (hn : ∀ element, arguments ≠ [element]) :
    peel (.named name arguments) = (0, .malformed name arguments.length) := by
  match arguments with
  | [] | _ :: _ :: _ => simp [peel, h]
  | [element] => exact absurd rfl (hn element)

/-- A respelled type has as many layers as the type itself, and its core is the same but for the
arguments of a class type. -/
theorem peel_respells {t t' : TypeRef} (h : t.Respells t') :
    (peel t').1 = (peel t).1 ∧ (peel t).2.Respells (peel t').2 := by
  fun_induction peel t generalizing t' with
  | case1 element ih =>
    cases h with
    | array h =>
      rw [peel_array]
      exact ⟨congrArg (· + 1) (ih h).1, (ih h).2⟩
    | collection hname h =>
      rw [peel_collection hname]
      exact ⟨congrArg (· + 1) (ih h).1, (ih h).2⟩
  | case2 name element hname ih =>
    cases h with
    | named _ h =>
      obtain ⟨element', rest, helement, hrest, rfl⟩ := List.forall₂_cons_left_iff.mp h
      obtain rfl := List.forall₂_nil_left_iff.mp hrest
      rw [peel_collection hname]
      exact ⟨congrArg (· + 1) (ih helement).1, (ih helement).2⟩
  | case3 name element hname =>
    cases h with
    | named _ h =>
      rw [peel_named (Bool.eq_false_iff.mpr hname)]
      exact ⟨rfl, .named name _ _⟩
  | case4 name arguments hn hname =>
    cases h with
    | named _ h =>
      rename_i arguments'
      have hn' : ∀ element, arguments' ≠ [element] := by
        rintro element' rfl
        obtain ⟨element, rest, -, hrest, rfl⟩ := List.forall₂_cons_right_iff.mp h
        obtain rfl := List.forall₂_nil_right_iff.mp hrest
        exact hn element rfl
      rw [peel_malformed hname hn', h.length_eq]
      exact ⟨rfl, .malformed name _⟩
  | case5 name arguments hn hname =>
    cases h with
    | named _ h =>
      rw [peel_named (Bool.eq_false_iff.mpr hname)]
      exact ⟨rfl, .named name _ _⟩
  | case6 t ha hs hn =>
    cases h with
    | primitive p => exact ⟨rfl, .primitive p⟩
    | wildcard => exact ⟨rfl, .wildcard⟩
    | array h => exact absurd rfl (ha _)
    | collection hname h => exact absurd rfl (ha _)
    | named name h => exact absurd rfl (hn name _)

variable {index index' : ClassIndex}

/-- What a core stands for is compared with what a respelled core stands for among respelled
classes. -/
theorem Core.compares_respelled (h : index.Respells index') {k k' : Core} (hk : k.Respells k') :
    (k.resolve index).Compares ClassDecl.Respells
      (fun _ r' => ∃ typeName, r' = .unresolved typeName) (k'.resolve index') := by
  cases hk with
  | primitive p => exact .leaf _
  | wildcard => exact .unresolved ⟨_, rfl⟩
  | malformed name arguments => exact .malformed name arguments
  | named name arguments arguments' =>
    refine compares_named_of_forall₂ (fun _ _ hc => hc.name_eq) (fun c c' hc => ?_) h name ⟨_, rfl⟩
    rw [ClassDecl.isEnum, ClassDecl.isEnum, hc.kind_eq]

/-- Targets of respelled types are compared, if what a leaf comes to is worded alike. -/
theorem compares_target_respelled (env' : Surroundings) (h : index.Respells index') {t t' : TypeRef}
    (ht : t.Respells t') (start path : String) {ofLeaf ofLeaf' : JsonKind → Outcome}
    (hleaf : ∀ jsonType, Outcome.AreAlike [ofLeaf jsonType] [ofLeaf' jsonType]) :
    (((peel t).2.resolve index).target start path ofLeaf).Compares ClassDecl.Respells
      Outcome.AreAlike env' (((peel t').2.resolve index').target start path ofLeaf') := by
  refine (Core.compares_respelled h (peel_respells ht).2).target isPiecewise_areAlike hleaf ?_
  rintro typeName _ onPath ⟨typeName', rfl⟩
  rw [Resolution.target, outcomes_settled]
  rfl

/-- Fields with respelled types lead to targets that are compared. -/
theorem Target.compares_ofField_respelled (env' : Surroundings) (h : index.Respells index')
    (start : String) {field field' : FieldDecl} (hfield : field.Respells field') :
    (ofField index start field).Compares ClassDecl.Respells Outcome.AreAlike env'
      (ofField index' start field') := by
  rw [ofField, ofField, (peel_respells hfield.type).1, hfield.name_eq]
  exact compares_target_respelled env' h hfield.type _ _ fun _ => rfl

/-- Documentations of classes and of respelled classes compare: the outcomes are worded alike. -/
theorem comparison_respelled (h : index.Respells index') (config : Config) :
    Comparison ClassDecl.Respells Outcome.AreAlike ⟨index, config⟩ ⟨index', config⟩ where
  toIsPiecewise := isPiecewise_areAlike
  maxDepth_eq := rfl
  name_eq hc := hc.name_eq
  fields start hc := by
    refine (List.rel_filter (fun field field' hfield => ?_) hc.fields).imp fun _ _ hfield =>
      Target.compares_ofField_respelled _ h start hfield
    simp only [hfield.isStatic_eq]

/-- A root comes to outcomes that are worded alike when types are respelled. -/
theorem Root.areAlike_outcomes_respelled (h : index.Respells index') (config : Config)
    {root root' : Root} (hroot : root.Respells root') :
    Outcome.AreAlike (root.outcomes ⟨index, config⟩) (root'.outcomes ⟨index', config⟩) := by
  refine (comparison_respelled h config).related_outcomes ∅ ?_
  cases hroot with
  | declared start hc => exact .object start (trimDots start) hc
  | payload paginated ht =>
    rw [target, target, (peel_respells ht).1]
    exact compares_target_respelled _ h ht _ _ fun _ => rfl

end Walk

/-- **Arrays and collections.** Respelling arrays as collection types, wherever they stand in the
types of fields and payloads, keeps the entries, and it keeps the diagnostics but for the wording of
the types that they are about. -/
theorem Pass.documentFrom_respelled {index index' : ClassIndex} (hindex : index.Respells index')
    {root root' : Walk.Root} (hroot : root.Respells root') (config : Config) (mode : PayloadMode)
    (earlier : List Diagnostic) :
    let original := documentFrom { diagnostics := earlier } ⟨index, config⟩ root mode
    let respelled := documentFrom { diagnostics := earlier } ⟨index', config⟩ root' mode
    respelled.1 = original.1 ∧
      respelled.2.diagnostics.map Diagnostic.withoutTypeText =
        original.2.diagnostics.map Diagnostic.withoutTypeText := by
  have h := Walk.Root.areAlike_outcomes_respelled hindex config hroot
  simp only [documentFrom_eq, List.map_append, Outcome.entries_eq_of_areAlike h,
    Outcome.diagnostics_of_areAlike h, and_self]

/-- A track of an album. -/
private def track : ClassDecl where
  name := "music.Track"
  fields := [{ name := "takes", type := .array (.array (.primitive .int)) }]

/-- The track with one of two layers respelled. -/
private def respelledTrack : ClassDecl where
  name := "music.Track"
  fields := [{ name := "takes", type := .array (.named "java.util.Set" [.primitive .int]) }]

/-- An album, spelled in one way or another. -/
private def albumOf (tracks next covers : TypeRef) : ClassDecl where
  name := "music.Album"
  fields :=
    [{ name := "tracks", type := tracks }, { name := "next", type := next },
      { name := "covers", type := .named "java.util.Map" [.named "String" [], covers] }]

/-- The album with arrays. -/
private def album : ClassDecl :=
  albumOf (.array (.named "java.util.List" [.array (.named "music.Track" [])]))
    (.array (.named "music.Album" [])) (.array (.named "music.Image" []))

/-- The album with collections of several names. -/
private def respelledAlbum : ClassDecl :=
  albumOf
    (.named "java.util.Queue"
      [.named "java.util.List" [.named "java.util.Deque" [.named "music.Track" []]]])
    (.named "java.lang.Iterable" [.named "music.Album" []])
    (.named "java.util.Set" [.named "music.Image" []])

/-- An array of albums, and a set of respelled albums: only the wording of a type without a known
class changes. -/
theorem Pass.documentFrom_respelled_album :
    let index : ClassIndex := { classes := [album, track], nodup_names := by decide }
    let index' : ClassIndex :=
      { classes := [respelledAlbum, respelledTrack], nodup_names := by decide }
    let root : Walk.Root := .payload (.array (.named "music.Album" [])) false
    let root' : Walk.Root := .payload (.named "java.util.Set" [.named "music.Album" []]) false
    let original := documentFrom {} ⟨index, {}⟩ root .responseBody
    let respelled := documentFrom {} ⟨index', {}⟩ root' .responseBody
    index.Respells index' ∧ root.Respells root' ∧ respelled.1 = original.1 ∧
      (original.1.entries.map FieldEntry.path, original.2.diagnostics) =
        (["[].tracks.[].[].[].takes.[]"],
          [.cyclicReference "[].next" "music.Album",
            .unresolvedType "[].covers" "java.util.Map<String,music.Image[]>"]) ∧
      respelled.2.diagnostics =
        [.cyclicReference "[].next" "music.Album",
          .unresolvedType "[].covers" "java.util.Map<String,java.util.Set<music.Image>>"] := by
  intro index index' root root' original respelled
  have hcollection : ∀ name ∈ ["java.util.Queue", "java.util.Deque", "java.lang.Iterable",
      "java.util.Set"], isCollection name = true := by
    decide +kernel
  have hnamed (name : String) : TypeRef.Respells (.named name []) (.named name []) :=
    .named name .nil
  have halbum : album.Respells respelledAlbum := by
    refine ⟨rfl, rfl, .cons ⟨rfl, rfl, ?_⟩ (.cons ⟨rfl, rfl, ?_⟩ (.cons ⟨rfl, rfl, ?_⟩ .nil))⟩
    · refine .collection (hcollection _ (by decide)) (.named _ (.cons ?_ .nil))
      exact .collection (hcollection _ (by decide)) (hnamed _)
    · exact .collection (hcollection _ (by decide)) (hnamed _)
    · refine .named _ (.cons (hnamed _) (.cons ?_ .nil))
      exact .collection (hcollection _ (by decide)) (hnamed _)
  have htrack : track.Respells respelledTrack := by
    refine ⟨rfl, rfl, .cons ⟨rfl, rfl, .array ?_⟩ .nil⟩
    exact .collection (hcollection _ (by decide)) (.primitive .int)
  have hindex : index.Respells index' := .cons halbum (.cons htrack .nil)
  have hroot : root.Respells root' :=
    .payload false (.collection (hcollection _ (by decide)) (hnamed _))
  obtain ⟨hentries, -⟩ := documentFrom_respelled hindex hroot {} .responseBody []
  exact ⟨hindex, hroot, hentries, by decide +kernel, by decide +kernel⟩

end HandlerDocs
