import HandlerDocs.Proofs.Request.Parameters
import HandlerDocs.Proofs.Snippet.Layout

/-!
# Snippets tell requests apart

The text of a snippet can be read again, from left to right, so that two requests with the same text
agree in everything that the text is made of. `IsReadable write valid stop` says this of one part:
what is written for a valid value, in front of a rest at which reading may stop, determines the
value and the rest. Variables are written as they are and end in front of `,` or `)`; literals end
at their closing quote; a list ends where the words of another element would have to follow
(`IsReadable.joinWords`).

* `isReadable_call` — a call that documents a field or a parameter.
* `SnippetParts.isReadable_entriesText` — a section.
* `assemble_inj` — a whole snippet.
-/

namespace HandlerDocs

/-! ### Texts in front of others -/

/-- Neither of two texts starts with the other. -/
def Differ (a b : String) : Prop :=
  ¬ a.toList <+: b.toList ∧ ¬ b.toList <+: a.toList

instance (a b : String) : Decidable (Differ a b) :=
  inferInstanceAs (Decidable (_ ∧ _))

/-- A text does not start with certain words. -/
def Avoids (words text : String) : Prop :=
  ¬ words.toList <+: text.toList

theorem not_avoids (words r : String) : ¬ Avoids words (words ++ r) := by
  rw [Avoids, not_not, String.toList_append]
  exact List.prefix_append _ _

/-- What follows makes no difference when two texts differ. -/
theorem Differ.avoids {a b : String} (h : Differ a b) (r : String) : Avoids a (b ++ r) := by
  rw [Avoids, String.toList_append]
  intro ha
  rcases List.prefix_or_prefix_of_prefix ha (List.prefix_append b.toList r.toList) with hab | hba
  · exact h.1 hab
  · exact h.2 hba

theorem Differ.append_ne {a b : String} (h : Differ a b) (r s : String) : a ++ r ≠ b ++ s := by
  intro heq
  exact h.avoids s (by rw [← heq, String.toList_append]; exact List.prefix_append _ _)

/-! ### Reading a part -/

/-- What is written for a valid value, in front of a rest at which reading may stop, determines the
value and the rest. -/
def IsReadable {α : Type} (write : α → String) (valid : α → Prop) (stop : String → Prop) : Prop :=
  ∀ ⦃a b : α⦄, valid a → valid b → ∀ ⦃r s : String⦄, stop r → stop s →
    write a ++ r = write b ++ s → a = b ∧ r = s

/-- Texts of which no two start with each other need no end. -/
theorem isReadable_of_differ {α : Type} {write : α → String}
    (h : ∀ a b, a ≠ b → Differ (write a) (write b)) :
    IsReadable write (fun _ => True) (fun _ => True) := by
  intro a b _ _ r s _ _ heq
  by_cases hab : a = b
  · subst hab
    exact ⟨rfl, (String.append_right_inj _).mp heq⟩
  · exact absurd heq ((h a b hab).append_ne r s)

/-- A list can be read when its elements can, and when what may follow the list may follow an
element but does not look like one. -/
theorem IsReadable.join {α : Type} {write : α → String} {valid : α → Prop}
    {next stop : String → Prop} (h : IsReadable write valid next)
    (hnext : ∀ a r, valid a → next (write a ++ r)) (hstop : ∀ r, stop r → next r)
    (hends : ∀ a r, valid a → ¬ stop (write a ++ r)) :
    IsReadable (fun as : List α => String.join (as.map write)) (fun as => ∀ a ∈ as, valid a)
      stop := by
  have hrest (as : List α) (has : ∀ a ∈ as, valid a) {r : String} (hr : stop r) :
      next (String.join (as.map write) ++ r) := by
    cases as with
    | nil => rw [List.map_nil, String.join_nil, String.empty_append]; exact hstop r hr
    | cons a as =>
      rw [List.map_cons, String.join_cons, String.append_assoc]
      exact hnext a _ (has a List.mem_cons_self)
  intro as
  induction as with
  | nil =>
    intro bs _ hbs r s hr _ heq
    cases bs with
    | nil => simpa using heq
    | cons b bs =>
      simp only [List.map_nil, String.join_nil, String.empty_append, List.map_cons,
        String.join_cons, String.append_assoc] at heq
      exact absurd (heq ▸ hr) (hends b _ (hbs b List.mem_cons_self))
  | cons a as ih =>
    intro bs has hbs r s hr hs heq
    cases bs with
    | nil =>
      simp only [List.map_nil, String.join_nil, String.empty_append, List.map_cons,
        String.join_cons, String.append_assoc] at heq
      exact absurd (heq ▸ hs) (hends a _ (has a List.mem_cons_self))
    | cons b bs =>
      rw [List.forall_mem_cons] at has hbs
      simp only [List.map_cons, String.join_cons, String.append_assoc] at heq
      obtain ⟨rfl, hothers⟩ := h has.1 hbs.1 (hrest as has.2 hr) (hrest bs hbs.2 hs) heq
      obtain ⟨rfl, rfl⟩ := ih has.2 hbs.2 hr hs hothers
      exact ⟨rfl, rfl⟩

/-- Words in front of a part. -/
theorem IsReadable.prepend {α : Type} {write : α → String} {valid : α → Prop}
    {stop : String → Prop} (h : IsReadable write valid stop) (words : String) :
    IsReadable (fun a => words ++ write a) valid stop := by
  intro a b ha hb r s hr hs heq
  rw [String.append_assoc, String.append_assoc, String.append_right_inj] at heq
  exact h ha hb hr hs heq

/-- All that is written starts with the same words. -/
def StartsWith {α : Type} (words : String) (write : α → String) : Prop :=
  ∀ a, ∃ r, write a = words ++ r

/-- A list of elements that all start with the same words ends where these words do not follow. -/
theorem IsReadable.joinWords {α : Type} {write : α → String} {valid : α → Prop} {words : String}
    (h : IsReadable write valid (fun _ => True)) (hwords : StartsWith words write) :
    IsReadable (fun as : List α => String.join (as.map write)) (fun as => ∀ a ∈ as, valid a)
      (Avoids words) := by
  refine h.join (fun _ _ _ => trivial) (fun _ _ => trivial) fun a r _ => ?_
  obtain ⟨t, ht⟩ := hwords a
  rw [ht, String.append_assoc]
  exact not_avoids words _

/-- A list of elements that all start with other words. -/
theorem StartsWith.avoids {α : Type} {write : α → String} {words other : String}
    (hwords : StartsWith words write) (h : Differ other words) (as : List α) {r : String}
    (hr : Avoids other r) : Avoids other (String.join (as.map write) ++ r) := by
  cases as with
  | nil => rwa [List.map_nil, String.join_nil, String.empty_append]
  | cons a as =>
    obtain ⟨t, ht⟩ := hwords a
    rw [List.map_cons, String.join_cons, ht, String.append_assoc, String.append_assoc]
    exact h.avoids _

/-! ### Variables -/

/-- Whether a character can stand in a variable that is read up to the next `,` or `)`. -/
def isBare (c : Char) : Bool :=
  c != ',' && c != ')'

/-- A text without `,` and `)`. -/
def IsBare (text : String) : Prop :=
  ∀ c ∈ text.toList, isBare c = true

instance (text : String) : Decidable (IsBare text) :=
  List.decidableBAll (fun c => isBare c = true) text.toList

/-- A text that does not go on with a character of a variable. -/
def EndsBare (text : String) : Prop :=
  text.toList.takeWhile isBare = []

theorem endsBare_comma (r : String) : EndsBare (", " ++ r) := by
  rw [EndsBare, String.toList_append]
  rfl

theorem endsBare_close (r : String) : EndsBare (")" ++ r) := by
  rw [EndsBare, String.toList_append]
  rfl

/-- A variable ends in front of the first `,` or `)`. -/
theorem isReadable_bare : IsReadable id IsBare EndsBare := by
  intro a b ha hb r s hr hs heq
  have htake {v t : String} (hv : IsBare v) (ht : EndsBare t) :
      (id v ++ t).toList.takeWhile isBare = v.toList := by
    rw [id, String.toList_append, List.takeWhile_append_of_pos hv, ht, List.append_nil]
  have hab : a.toList = b.toList := by
    rw [← htake ha hr, heq, htake hb hs]
  obtain rfl := String.toList_inj.mp hab
  exact ⟨rfl, (String.append_right_inj _).mp heq⟩

/-! ### Calls -/

/-- A call that documents a field or a parameter. -/
def IsCall (text : String) : Prop :=
  ∃ (entry : FieldEntry) (mode : PayloadMode), text = entry.render mode

theorem parameterCall_append (name description r : String) :
    parameterCall name description ++ r =
      "parameterWithName(\"" ++ (escape name ++ ("\"" ++ (").description(\"" ++
        (escape description ++ ("\"" ++ (")" ++ r)))))) := by
  have hcall : parameterCall name description =
      "parameterWithName(\"" ++ escape name ++ ("\"" ++ ").description(\"") ++ escape description ++
        ("\"" ++ ")") := rfl
  rw [hcall]
  simp only [String.append_assoc]

/-- The name and the description of a parameter are literals. -/
theorem parameterCall_append_inj {name name' description description' r s : String}
    (h : parameterCall name description ++ r = parameterCall name' description' ++ s) :
    name = name' ∧ description = description' ∧ r = s := by
  rw [parameterCall_append, parameterCall_append, String.append_right_inj] at h
  obtain ⟨hname, h⟩ := escape_append_quote_inj h
  rw [String.append_right_inj] at h
  obtain ⟨hdescription, h⟩ := escape_append_quote_inj h
  exact ⟨hname, hdescription, (String.append_right_inj _).mp h⟩

/-- The call that documents a field of a body. -/
def fieldCall (entry : FieldEntry) : String :=
  entry.render .responseBody

theorem fieldCall_append (entry : FieldEntry) (r : String) :
    fieldCall entry ++ r =
      "fieldWithPath(\"" ++ (escape entry.path ++ ("\"" ++ (").type(JsonFieldType." ++
        (entry.jsonType.name ++ (").description(\"" ++
          (escape entry.description ++ ("\"" ++ (")" ++ r)))))))) := by
  have hcall : fieldCall entry =
      "fieldWithPath(\"" ++ escape entry.path ++ ("\"" ++ ").type(JsonFieldType.") ++
        entry.jsonType.name ++ ").description(\"" ++ escape entry.description ++
          ("\"" ++ ")") := rfl
  rw [hcall]
  simp only [String.append_assoc]

theorem differ_jsonKind {a b : JsonKind} (h : a ≠ b) : Differ a.name b.name := by
  cases a <;> cases b <;> first | exact absurd rfl h | decide

/-- The path, the type and the description of a field. -/
theorem fieldCall_append_inj {entry entry' : FieldEntry} {r s : String}
    (h : fieldCall entry ++ r = fieldCall entry' ++ s) : entry = entry' ∧ r = s := by
  rw [fieldCall_append, fieldCall_append, String.append_right_inj] at h
  obtain ⟨hpath, h⟩ := escape_append_quote_inj h
  rw [String.append_right_inj] at h
  obtain ⟨htype, h⟩ := isReadable_of_differ (fun _ _ => differ_jsonKind) trivial trivial trivial
    trivial h
  rw [String.append_right_inj] at h
  obtain ⟨hdescription, h⟩ := escape_append_quote_inj h
  have hrest := (String.append_right_inj _).mp h
  obtain ⟨path, jsonType, description⟩ := entry
  obtain ⟨path', jsonType', description'⟩ := entry'
  obtain ⟨rfl, rfl, rfl⟩ : path = path' ∧ jsonType = jsonType' ∧ description = description' :=
    ⟨hpath, htype, hdescription⟩
  exact ⟨rfl, hrest⟩

/-- A call is that of a parameter or that of a field. -/
theorem IsCall.cases {text : String} (h : IsCall text) :
    (∃ name description, text = parameterCall name description) ∨
      ∃ entry, text = fieldCall entry := by
  obtain ⟨entry, mode, rfl⟩ := h
  cases mode with
  | modelAttribute => exact .inl ⟨entry.path, entry.description, rfl⟩
  | requestBody | responseBody => exact .inr ⟨entry, rfl⟩

/-- A call ends with its last parenthesis, whatever follows. -/
theorem isReadable_call : IsReadable id IsCall (fun _ => True) := by
  have hdiffer : Differ "parameterWithName(\"" "fieldWithPath(\"" := by decide
  intro a b ha hb r s _ _ heq
  rcases ha.cases with ⟨name, description, rfl⟩ | ⟨entry, rfl⟩ <;>
    rcases hb.cases with ⟨name', description', rfl⟩ | ⟨entry', rfl⟩
  · obtain ⟨rfl, rfl, rfl⟩ := parameterCall_append_inj heq
    exact ⟨rfl, rfl⟩
  · rw [id, id, parameterCall_append, fieldCall_append] at heq
    exact absurd heq (hdiffer.append_ne _ _)
  · rw [id, id, parameterCall_append, fieldCall_append] at heq
    exact absurd heq.symm (hdiffer.append_ne _ _)
  · obtain ⟨rfl, rfl⟩ := fieldCall_append_inj heq
    exact ⟨rfl, rfl⟩

theorem isCall_of_mem_rendered (set : FieldSet) : ∀ call ∈ set.rendered, IsCall call := by
  intro call hcall
  obtain ⟨entry, -, rfl⟩ := List.mem_map.mp hcall
  exact ⟨entry, set.mode, rfl⟩

/-- What a snippet tells about a parameter: its name in the request and its variable. -/
def BoundParameter.key (p : BoundParameter) : String × String :=
  (p.name, p.variableName)

theorem map_key_eq (ps : List BoundParameter) :
    ps.map BoundParameter.key =
      (ps.map BoundParameter.name).zip (ps.map BoundParameter.variableName) :=
  List.zip_map'.symm

theorem map_name_eq (ps : List BoundParameter) :
    ps.map BoundParameter.name = (ps.map BoundParameter.key).map Prod.fst := by
  rw [List.map_map]
  rfl

namespace SnippetParts

theorem isCall_of_mem_parameterEntry (ps : List BoundParameter) :
    ∀ call ∈ ps.map parameterEntry, IsCall call := by
  intro call hcall
  obtain ⟨p, -, rfl⟩ := List.mem_map.mp hcall
  exact ⟨{ path := p.name, jsonType := .string }, .modelAttribute, rfl⟩

/-- The calls for parameters are made of their names. -/
theorem map_parameterEntry_eq (ps : List BoundParameter) :
    ps.map parameterEntry = (ps.map BoundParameter.name).map (parameterCall · "") := by
  rw [List.map_map]
  rfl

/-- The calls for parameters tell their names. -/
theorem name_eq_of_parameterEntry {ps qs : List BoundParameter}
    (h : ps.map parameterEntry = qs.map parameterEntry) :
    ps.map BoundParameter.name = qs.map BoundParameter.name := by
  rw [map_parameterEntry_eq, map_parameterEntry_eq] at h
  refine List.map_injective_iff.mpr (fun name name' heq => ?_) h
  exact (parameterCall_append_inj (congrArg (· ++ "") heq)).1

/-! ### The arguments of the request builder -/

theorem differ_builder {a b : HttpMethod} (h : a ≠ b) : Differ a.builder b.builder := by
  cases a <;> cases b <;> first | exact absurd rfl h | decide

theorem variablesText_eq (ps : List BoundParameter) :
    variablesText ps = String.join ((ps.map BoundParameter.variableName).map (", " ++ ·)) := by
  rw [variablesText, List.map_map]
  rfl

/-- The variables of the path go on with a comma and end with a parenthesis. -/
theorem isReadable_variables :
    IsReadable (fun vs : List String => String.join (vs.map (", " ++ ·)))
      (fun vs => ∀ v ∈ vs, IsBare v) (fun r => EndsBare r ∧ Avoids ", " r) := by
  have helement : IsReadable (", " ++ ·) IsBare EndsBare := isReadable_bare.prepend ", "
  refine helement.join (fun v r _ => ?_) (fun r hr => hr.1) (fun v r _ hr => ?_)
  · rw [String.append_assoc]
    exact endsBare_comma _
  · rw [String.append_assoc] at hr
    exact not_avoids _ _ hr.2

/-! ### Settings -/

/-- The settings of a body with a variable. -/
def bodySetting (contentType v : String) : String :=
  lineText ".contentType(" ++ (contentType ++ (")" ++ (lineText ".accept(" ++ (contentType ++
    (")" ++ (lineText ".content(" ++ (v ++ ")")))))))

/-- The setting of a model attribute with a variable. -/
def modelSetting (v : String) : String :=
  lineText ".params(" ++ (v ++ ")")

/-- The setting of a parameter of the query with a key. -/
def querySetting (key : String × String) : String :=
  lineText ".param(\"" ++ (escape key.1 ++ ("\"" ++ (", " ++ (key.2 ++ ")"))))

theorem linesText_bodyLines (contentType : String) (body : Option BoundParameter) :
    linesText (bodyLines contentType body) = String.join
      ((body.map BoundParameter.variableName).toList.map (bodySetting contentType)) := by
  cases body with
  | none => rfl
  | some p =>
    have hlines : bodyLines contentType (some p) = [".contentType(" ++ contentType ++ ")",
        ".accept(" ++ contentType ++ ")", ".content(" ++ p.variableName ++ ")"] := rfl
    simp only [linesText, hlines, List.map_cons, List.map_nil, Option.map_some, Option.toList_some,
      String.join_cons, String.join_nil, String.append_empty, lineText, bodySetting,
      String.append_assoc]

theorem linesText_modelLines (model : Option BoundParameter) :
    linesText (modelLines model) = String.join
      ((model.map BoundParameter.variableName).toList.map modelSetting) := by
  cases model with
  | none => rfl
  | some p =>
    have hlines : modelLines (some p) = [".params(" ++ p.variableName ++ ")"] := rfl
    simp only [linesText, hlines, List.map_cons, List.map_nil, Option.map_some, Option.toList_some,
      String.join_cons, String.join_nil, String.append_empty, lineText, modelSetting,
      String.append_assoc]

theorem linesText_queryLines (ps : List BoundParameter) :
    linesText (ps.map queryLine) =
      String.join ((ps.map BoundParameter.key).map querySetting) := by
  rw [linesText, List.map_map, List.map_map]
  refine congrArg String.join (List.map_congr_left fun p _ => ?_)
  have hline : queryLine p =
    ".param(\"" ++ escape p.name ++ ("\"" ++ ", ") ++ p.variableName ++ ")" := rfl
  simp only [Function.comp_apply, hline, lineText, querySetting, BoundParameter.key,
    String.append_assoc]

/-- A variable with the parenthesis behind it. -/
theorem isReadable_argument : IsReadable (· ++ ")") IsBare (fun _ => True) := by
  intro a b ha hb r s _ _ heq
  rw [String.append_assoc, String.append_assoc] at heq
  obtain ⟨hab, hrest⟩ := isReadable_bare ha hb (endsBare_close r) (endsBare_close s) heq
  exact ⟨hab, (String.append_right_inj _).mp hrest⟩

theorem isReadable_bodySetting (contentType : String) :
    IsReadable (bodySetting contentType) IsBare (fun _ => True) :=
  have hcontent := isReadable_argument.prepend (lineText ".content(")
  have haccept := ((hcontent.prepend ")").prepend contentType).prepend (lineText ".accept(")
  ((haccept.prepend ")").prepend contentType).prepend (lineText ".contentType(")

theorem isReadable_modelSetting : IsReadable modelSetting IsBare (fun _ => True) :=
  isReadable_argument.prepend (lineText ".params(")

theorem isReadable_querySetting :
    IsReadable querySetting (fun key => IsBare key.2) (fun _ => True) := by
  intro a b ha hb r s hr hs heq
  simp only [querySetting, String.append_assoc, String.append_right_inj] at heq
  obtain ⟨hname, heq⟩ := escape_append_quote_inj heq
  rw [String.append_right_inj] at heq
  obtain ⟨hvariable, hrest⟩ :=
    isReadable_argument ha hb hr hs (by simpa only [String.append_assoc] using heq)
  exact ⟨Prod.ext hname hvariable, hrest⟩

/-! ### Sections -/

/-- The words in front of the entries of a section. -/
def sectionHead (name : String) : String :=
  ",\n\t\t\t" ++ (name ++ "(\n\t\t\t\t")

theorem entriesText_append (name entry r : String) (entries : List String) :
    entriesText name (entry :: entries) ++ r =
      sectionHead name ++ (entry ++
        (String.join (entries.map (SnippetSection.separator ++ ·)) ++ ("\n\t\t\t)" ++ r))) := by
  simp only [entriesText_cons, sectionHead, String.append_assoc]

theorem avoids_entriesText {words name : String} (h : Differ words (sectionHead name))
    (entries : List String) {r : String} (hr : Avoids words r) :
    Avoids words (entriesText name entries ++ r) := by
  cases entries with
  | nil => rwa [entriesText_nil, String.empty_append]
  | cons entry entries =>
    rw [entriesText_append]
    exact h.avoids _

/-- The entries of a section, in their order. -/
theorem isReadable_entriesText (name : String) :
    IsReadable (entriesText name) (fun entries => ∀ call ∈ entries, IsCall call)
      (Avoids (sectionHead name)) := by
  have hothers : IsReadable
      (fun calls : List String => String.join (calls.map (SnippetSection.separator ++ ·)))
      (fun calls => ∀ call ∈ calls, IsCall call) (Avoids SnippetSection.separator) :=
    (isReadable_call.prepend SnippetSection.separator).joinWords fun call => ⟨call, rfl⟩
  have hclose (r : String) : Avoids SnippetSection.separator ("\n\t\t\t)" ++ r) :=
    Differ.avoids (by decide) r
  intro calls calls' h h' r s hr hs heq
  match calls, calls' with
  | [], [] => exact ⟨rfl, by simpa using heq⟩
  | [], call :: calls' =>
    rw [entriesText_nil, String.empty_append, entriesText_append] at heq
    exact absurd (heq ▸ hr) (not_avoids _ _)
  | call :: calls, [] =>
    rw [entriesText_nil, String.empty_append, entriesText_append] at heq
    exact absurd (heq ▸ hs) (not_avoids _ _)
  | call :: calls, call' :: calls' =>
    rw [List.forall_mem_cons] at h h'
    rw [entriesText_append, entriesText_append, String.append_right_inj] at heq
    obtain ⟨hcall, heq⟩ := isReadable_call h.1 h'.1 trivial trivial heq
    obtain ⟨hcalls, heq⟩ := hothers h.2 h'.2 (hclose r) (hclose s) heq
    exact ⟨congrArg₂ List.cons hcall hcalls, (String.append_right_inj _).mp heq⟩

end SnippetParts

/-! ### Whole snippets -/

open SnippetParts

/-- The variables of all parameters of a request can be read. -/
def HasBareVariables (request : RequestDescription) : Prop :=
  ∀ p ∈ request.all, IsBare p.variableName

instance (request : RequestDescription) : Decidable (HasBareVariables request) :=
  List.decidableBAll (fun p : BoundParameter => IsBare p.variableName) request.all

namespace HasBareVariables

variable {request : RequestDescription} (h : HasBareVariables request)

include h

theorem pathVariables : ∀ v ∈ request.pathVariables.map BoundParameter.variableName, IsBare v :=
  List.forall_mem_map.mpr fun p hp => h p (by simp [RequestSlots.all, hp])

theorem queryParams : ∀ key ∈ request.queryParams.map BoundParameter.key, IsBare key.2 :=
  List.forall_mem_map.mpr fun p hp => h p (by simp [RequestSlots.all, hp])

theorem body : ∀ v ∈ (request.body.map BoundParameter.variableName).toList, IsBare v := by
  intro v hv
  obtain ⟨p, hp, rfl⟩ := Option.map_eq_some_iff.mp (Option.mem_toList.mp hv)
  exact h p (by simp [RequestSlots.all, hp])

theorem modelAttribute :
    ∀ v ∈ (request.modelAttribute.map BoundParameter.variableName).toList, IsBare v := by
  intro v hv
  obtain ⟨p, hp, rfl⟩ := Option.map_eq_some_iff.mp (Option.mem_toList.mp hv)
  exact h p (by simp [RequestSlots.all, hp])

end HasBareVariables

/-- Two requests, each with its documented fields, agree in all that a snippet tells. The types of
parameters, the names of the body and of the model attribute, and the response are not told. -/
structure Agree (config : Config) (request request' : RequestDescription)
    (fields fields' : PayloadFields) : Prop where
  httpMethod : request.httpMethod = request'.httpMethod
  path : request.path = request'.path
  pathVariables :
    request.pathVariables.map BoundParameter.key = request'.pathVariables.map BoundParameter.key
  queryParams :
    request.queryParams.map BoundParameter.key = request'.queryParams.map BoundParameter.key
  body :
    request.body.map BoundParameter.variableName = request'.body.map BoundParameter.variableName
  modelAttribute : request.modelAttribute.map BoundParameter.variableName =
    request'.modelAttribute.map BoundParameter.variableName
  identifier : identifierOf config request = identifierOf config request'
  modelFields :
    fields.modelAttribute.entries.map (·.render fields.modelAttribute.mode) =
      fields'.modelAttribute.entries.map (·.render fields'.modelAttribute.mode)
  requestFields :
    fields.requestBody.entries.map (·.render fields.requestBody.mode) =
      fields'.requestBody.entries.map (·.render fields'.requestBody.mode)
  responseFields :
    fields.responseBody.entries.map (·.render fields.responseBody.mode) =
      fields'.responseBody.entries.map (·.render fields'.responseBody.mode)

variable {request request' : RequestDescription} {fields fields' : PayloadFields}

/-- The settings of a request, up to the words behind them. -/
theorem settings_inj {contentType r s : String} (hv : HasBareVariables request)
    (hv' : HasBareVariables request')
    (h : linesText (bodyLines contentType request.body) ++
        (linesText (modelLines request.modelAttribute) ++
          (linesText (request.queryParams.map queryLine) ++ (chainText ++ r))) =
      linesText (bodyLines contentType request'.body) ++
        (linesText (modelLines request'.modelAttribute) ++
          (linesText (request'.queryParams.map queryLine) ++ (chainText ++ s)))) :
    request.body.map BoundParameter.variableName =
        request'.body.map BoundParameter.variableName ∧
      request.modelAttribute.map BoundParameter.variableName =
        request'.modelAttribute.map BoundParameter.variableName ∧
      request.queryParams.map BoundParameter.key = request'.queryParams.map BoundParameter.key ∧
      r = s := by
  have hbody : StartsWith (lineText ".contentType(") (bodySetting contentType) :=
    fun _ => ⟨_, rfl⟩
  have hmodel : StartsWith (lineText ".params(") modelSetting := fun _ => ⟨_, rfl⟩
  have hquery : StartsWith (lineText ".param(\"") querySetting := fun _ => ⟨_, rfl⟩
  -- What follows a list of settings starts with other words.
  have hqueryEnd (t : String) : Avoids (lineText ".param(\"") (chainText ++ t) :=
    Differ.avoids (by decide) t
  have hmodelEnd (keys : List (String × String)) (t : String) :
      Avoids (lineText ".params(") (String.join (keys.map querySetting) ++ (chainText ++ t)) :=
    hquery.avoids (by decide) keys (Differ.avoids (by decide) t)
  have hbodyEnd (vs : List String) (keys : List (String × String)) (t : String) :
      Avoids (lineText ".contentType(") (String.join (vs.map modelSetting) ++
        (String.join (keys.map querySetting) ++ (chainText ++ t))) :=
    hmodel.avoids (by decide) vs (hquery.avoids (by decide) keys (Differ.avoids (by decide) t))
  have hoption {o o' : Option String} (heq : o.toList = o'.toList) : o = o' := by
    simpa using congrArg List.head? heq
  simp only [linesText_bodyLines, linesText_modelLines, linesText_queryLines] at h
  obtain ⟨hbodies, h⟩ := (isReadable_bodySetting contentType).joinWords hbody hv.body hv'.body
    (hbodyEnd _ _ r) (hbodyEnd _ _ s) h
  obtain ⟨hmodels, h⟩ := isReadable_modelSetting.joinWords hmodel hv.modelAttribute
    hv'.modelAttribute (hmodelEnd _ r) (hmodelEnd _ s) h
  obtain ⟨hqueries, h⟩ := isReadable_querySetting.joinWords hquery hv.queryParams hv'.queryParams
    (hqueryEnd r) (hqueryEnd s) h
  exact ⟨hoption hbodies, hoption hmodels, hqueries, (String.append_right_inj _).mp h⟩

theorem isCall_of_mem_parameters (request : RequestDescription) (fields : PayloadFields) :
    ∀ call ∈ request.queryParams.map parameterEntry ++ fields.modelAttribute.rendered,
      IsCall call :=
  List.forall_mem_append.mpr
    ⟨isCall_of_mem_parameterEntry _, isCall_of_mem_rendered fields.modelAttribute⟩

/-- The entries of the four sections, up to the end of the text. -/
theorem sections_inj
    (h : entriesText "requestParameters"
          (request.queryParams.map parameterEntry ++ fields.modelAttribute.rendered) ++
        (entriesText "pathParameters" (request.pathVariables.map parameterEntry) ++
          (entriesText "requestFields" fields.requestBody.rendered ++
            (entriesText "responseFields" fields.responseBody.rendered ++
              ("\n\t\t)" ++ "\n\t);")))) =
      entriesText "requestParameters"
          (request'.queryParams.map parameterEntry ++ fields'.modelAttribute.rendered) ++
        (entriesText "pathParameters" (request'.pathVariables.map parameterEntry) ++
          (entriesText "requestFields" fields'.requestBody.rendered ++
            (entriesText "responseFields" fields'.responseBody.rendered ++
              ("\n\t\t)" ++ "\n\t);"))))) :
    request.queryParams.map parameterEntry ++ fields.modelAttribute.rendered =
        request'.queryParams.map parameterEntry ++ fields'.modelAttribute.rendered ∧
      request.pathVariables.map parameterEntry = request'.pathVariables.map parameterEntry ∧
      fields.requestBody.rendered = fields'.requestBody.rendered ∧
      fields.responseBody.rendered = fields'.responseBody.rendered := by
  -- What follows a section starts with other words.
  have hresponseEnd : Avoids (sectionHead "responseFields") ("\n\t\t)" ++ "\n\t);") :=
    Differ.avoids (by decide) _
  have hrequestEnd (calls : List String) : Avoids (sectionHead "requestFields")
      (entriesText "responseFields" calls ++ ("\n\t\t)" ++ "\n\t);")) :=
    avoids_entriesText (by decide) calls (Differ.avoids (by decide) _)
  have hpathEnd (calls calls' : List String) : Avoids (sectionHead "pathParameters")
      (entriesText "requestFields" calls ++
        (entriesText "responseFields" calls' ++ ("\n\t\t)" ++ "\n\t);"))) :=
    avoids_entriesText (by decide) calls
      (avoids_entriesText (by decide) calls' (Differ.avoids (by decide) _))
  have hparametersEnd (calls calls' calls'' : List String) :
      Avoids (sectionHead "requestParameters") (entriesText "pathParameters" calls ++
        (entriesText "requestFields" calls' ++
          (entriesText "responseFields" calls'' ++ ("\n\t\t)" ++ "\n\t);")))) :=
    avoids_entriesText (by decide) calls (avoids_entriesText (by decide) calls'
      (avoids_entriesText (by decide) calls'' (Differ.avoids (by decide) _)))
  obtain ⟨hparameters, h⟩ := isReadable_entriesText "requestParameters"
    (isCall_of_mem_parameters request fields) (isCall_of_mem_parameters request' fields')
    (hparametersEnd _ _ _) (hparametersEnd _ _ _) h
  obtain ⟨hpaths, h⟩ := isReadable_entriesText "pathParameters" (isCall_of_mem_parameterEntry _)
    (isCall_of_mem_parameterEntry _) (hpathEnd _ _) (hpathEnd _ _) h
  obtain ⟨hrequests, h⟩ := isReadable_entriesText "requestFields" (isCall_of_mem_rendered _)
    (isCall_of_mem_rendered _) (hrequestEnd _) (hrequestEnd _) h
  obtain ⟨hresponses, -⟩ := isReadable_entriesText "responseFields" (isCall_of_mem_rendered _)
    (isCall_of_mem_rendered _) hresponseEnd hresponseEnd h
  exact ⟨hparameters, hpaths, hrequests, hresponses⟩

/-- **Snippets tell requests apart.** The text of a snippet determines the method and the path, the
parameters with their names and variables, in their order, whether there is a body or a model
attribute, the identifier, and the documented fields. Only the variables are written as they are, so
only these must not contain the characters at which a variable ends. -/
theorem assemble_inj (config : Config) {request request' : RequestDescription}
    {fields fields' : PayloadFields} (hv : HasBareVariables request)
    (hv' : HasBareVariables request')
    (h : assemble config request fields = assemble config request' fields') :
    Agree config request request' fields fields' := by
  have hclose (r : String) : EndsBare (")" ++ r) ∧ Avoids ", " (")" ++ r) :=
    ⟨endsBare_close r, Differ.avoids (by decide) r⟩
  rw [assemble_eq, assemble_eq] at h
  -- The method, the path and its variables.
  rw [String.append_right_inj, String.append_right_inj] at h
  obtain ⟨hmethod, h⟩ := isReadable_of_differ (fun _ _ => differ_builder) trivial trivial trivial
    trivial h
  rw [String.append_right_inj] at h
  obtain ⟨hpath, h⟩ := literal_append_inj h
  rw [variablesText_eq, variablesText_eq] at h
  obtain ⟨hvariables, h⟩ := isReadable_variables hv.pathVariables hv'.pathVariables (hclose _)
    (hclose _) h
  -- The settings and the identifier.
  obtain ⟨hbody, hmodel, hquery, h⟩ := settings_inj hv hv' ((String.append_right_inj _).mp h)
  obtain ⟨hidentifier, h⟩ := escape_append_quote_inj h
  -- The sections. The entries for the query are known by now, and set the others apart.
  obtain ⟨hparameters, hpaths, hrequest, hresponse⟩ := sections_inj h
  have hquery' : request.queryParams.map parameterEntry =
      request'.queryParams.map parameterEntry := by
    rw [map_parameterEntry_eq, map_parameterEntry_eq, map_name_eq, map_name_eq, hquery]
  rw [hquery'] at hparameters
  exact
    { httpMethod := hmethod
      path := hpath
      pathVariables := by
        rw [map_key_eq, map_key_eq, name_eq_of_parameterEntry hpaths, hvariables]
      queryParams := hquery
      body := hbody
      modelAttribute := hmodel
      identifier := hidentifier
      modelFields := List.append_cancel_left hparameters
      requestFields := hrequest
      responseFields := hresponse }

/-- A request with parameters of all roles. -/
private def renamed : RequestDescription where
  methodName := "rename"
  httpMethod := .put
  path := "/items/\x7bid\x7d"
  pathVariables :=
    [{ name := "id", variableName := "id", type := .wildcard, role := .pathVariable }]
  queryParams := [{ name := "\")", variableName := "q", type := .wildcard, role := .queryParam }]
  body := some { name := "item", variableName := "item", type := .wildcard, role := .body }
  modelAttribute := some
    { name := "page", variableName := "page", type := .wildcard, role := .modelAttribute }

/-- The same request, for other types and with another response. -/
private def retyped : RequestDescription where
  methodName := "rename"
  httpMethod := .put
  path := "/items/\x7bid\x7d"
  pathVariables :=
    [{ name := "id", variableName := "id", type := .array .wildcard, role := .pathVariable }]
  queryParams := [{ name := "\")", variableName := "q", type := .wildcard, role := .queryParam }]
  body := some { name := "dto", variableName := "item", type := .wildcard, role := .body }
  modelAttribute := some
    { name := "page", variableName := "page", type := .wildcard, role := .modelAttribute }
  response := some { type := .wildcard, paginated := true }

/-- The fields of a model attribute, which tell no types. -/
private def pageFields (jsonType : JsonKind) : PayloadFields where
  modelAttribute :=
    { mode := .modelAttribute
      entries := [{ path := "page", jsonType, description := "A \"page\"" }] }

/-- Two requests with the same text, which agree in all but the types, the response and the name of
the body. -/
theorem assemble_inj_retyped :
    HasBareVariables renamed ∧ HasBareVariables retyped ∧
      assemble {} renamed (pageFields .number) = assemble {} retyped (pageFields .string) ∧
      Agree {} renamed retyped (pageFields .number) (pageFields .string) := by
  have hv : HasBareVariables renamed := by decide
  have hv' : HasBareVariables retyped := by decide
  have h : assemble {} renamed (pageFields .number) = assemble {} retyped (pageFields .string) :=
    rfl
  exact ⟨hv, hv', h, assemble_inj {} hv hv' h⟩

end HandlerDocs
