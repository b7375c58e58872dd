import HandlerDocs.Proofs.Request.Parameters
import HandlerDocs.Proofs.Snippet.Layout

/-!
# Snippets are closed

Values of all kinds are written into a snippet: paths, keys, descriptions, identifiers. None of them
can end the literal in which it stands or change how calls are nested. To say so, a `Scanner` goes
through source text from left to right and knows whether it is in a literal and how many parentheses
are open. It stops at a parenthesis that closes none, and at a line break or a tab in a literal.

`Leads s t text` says that a scanner in the state `s` gets through a text and is in the state `t`
behind it. Each part of a snippet leads from a known state to another one, and parts that follow
each other are put together by `Leads.append`.

* `Leads.escape` — an escaped value stays inside of its literal.
* `assemble_isClosed` — a whole snippet leads from the initial state back to it.
-/

namespace HandlerDocs

/-! ### The scanner -/

/-- Where a scanner is. -/
inductive Place
  /-- Outside of string literals. -/
  | code
  /-- Inside of a string literal. -/
  | literal
  /-- Inside of a string literal, behind a backslash. -/
  | escaped
  deriving DecidableEq, Repr

/-- A scanner of source text with string literals and parentheses. -/
structure Scanner where
  /-- Where the scanner is. -/
  place : Place := .code
  /-- How many parentheses are open outside of literals. -/
  depth : Nat := 0
  deriving DecidableEq, Repr

namespace Scanner

/-- The characters that cannot stand in a literal as they are. -/
def isControl (c : Char) : Bool :=
  c == '\n' || c == '\r' || c == '\t'

/-- Goes past a character. There is no way past a parenthesis that closes none, and none past a
line break or a tab inside of a literal. A backslash in a literal takes the next character along. -/
def next? (s : Scanner) (c : Char) : Option Scanner :=
  match s.place with
  | .code =>
    if c = '"' then some { s with place := .literal }
    else if c = '(' then some { s with depth := s.depth + 1 }
    else if c = ')' then if s.depth = 0 then none else some { s with depth := s.depth - 1 }
    else some s
  | .literal =>
    if isControl c then none
    else if c = '\\' then some { s with place := .escaped }
    else if c = '"' then some { s with place := .code }
    else some s
  | .escaped => if isControl c then none else some { s with place := .literal }

/-- Goes past all characters of a text. -/
def scan? (s : Scanner) (text : List Char) : Option Scanner :=
  text.foldlM next? s

/-- A scanner gets through a text, from one state to another. -/
def Leads (s t : Scanner) (text : String) : Prop :=
  s.scan? text.toList = some t

instance (s t : Scanner) (text : String) : Decidable (Leads s t text) :=
  inferInstanceAs (Decidable (_ = _))

/-- An escaped quote closes no literal. -/
example : Leads {} {} "f(\"\\\")\")" ∧ ¬ Leads {} {} "f(\"\\\")" := by decide

namespace Leads

variable {s t u : Scanner} {d : Nat}

theorem empty : Leads s s "" := rfl

/-- Texts that follow each other. -/
theorem append {a b : String} (ha : Leads s t a) (hb : Leads t u b) : Leads s u (a ++ b) := by
  rw [Leads, scan?, String.toList_append, List.foldlM_append]
  exact Option.bind_eq_some_iff.mpr ⟨t, ha, hb⟩

/-- Texts that all lead back to the same state. -/
theorem join {texts : List String} (h : ∀ text ∈ texts, Leads s s text) :
    Leads s s (String.join texts) := by
  induction texts with
  | nil => exact empty
  | cons text texts ih =>
    rw [String.join_cons]
    exact (h text List.mem_cons_self).append
      (ih fun other hother => h other (List.mem_cons_of_mem _ hother))

/-- The spelling of a character inside of a literal leads back into it. -/
theorem scan?_escapeChar (c : Char) :
    scan? ⟨.literal, d⟩ (Text.escapeChar c) = some ⟨.literal, d⟩ := by
  -- An escaped character is taken along by its backslash; the others have no meaning.
  unfold Text.escapeChar
  split <;> simp_all [scan?, next?, isControl]

/-- An escaped value stays inside of its literal. -/
protected theorem escape (value : String) : Leads ⟨.literal, d⟩ ⟨.literal, d⟩ (escape value) := by
  rw [Leads, HandlerDocs.escape, String.toList_ofList]
  induction value.toList with
  | nil => rfl
  | cons c value ih =>
    rw [Text.escape_cons, scan?, List.foldlM_append]
    exact Option.bind_eq_some_iff.mpr ⟨_, scan?_escapeChar c, ih⟩

/-- A literal leads back out of it. -/
protected theorem literal (value : String) : Leads ⟨.code, d⟩ ⟨.code, d⟩ (literal value) :=
  have hopen : Leads ⟨.code, d⟩ ⟨.literal, d⟩ "\"" := rfl
  have hclose : Leads ⟨.literal, d⟩ ⟨.code, d⟩ "\"" := rfl
  (hopen.append (.escape value)).append hclose

end Leads

/-! ### Plain texts -/

/-- Whether a character has no meaning for a scanner. -/
def isPlain (c : Char) : Bool :=
  c != '"' && c != '\\' && c != '(' && c != ')'

/-- A text without quotes, backslashes and parentheses. -/
def IsPlain (text : String) : Prop :=
  ∀ c ∈ text.toList, isPlain c = true

instance (text : String) : Decidable (IsPlain text) :=
  List.decidableBAll (fun c => isPlain c = true) text.toList

/-- A scanner is in the same state behind a plain text. -/
theorem IsPlain.leads {text : String} {d : Nat} (h : IsPlain text) :
    Leads ⟨.code, d⟩ ⟨.code, d⟩ text := by
  rw [IsPlain] at h
  rw [Leads, scan?]
  generalize text.toList = cs at h ⊢
  induction cs with
  | nil => rfl
  | cons c cs ih =>
    have hc : next? ⟨.code, d⟩ c = some ⟨.code, d⟩ := by
      have hplain := h c List.mem_cons_self
      simp only [isPlain, Bool.and_eq_true, bne_iff_ne] at hplain
      simp [next?, hplain]
    rw [List.foldlM_cons, hc]
    exact ih fun c' hc' => h c' (List.mem_cons_of_mem c hc')

theorem isPlain_builder (method : HttpMethod) : IsPlain method.builder := by
  cases method <;> decide

theorem isPlain_name (jsonType : JsonKind) : IsPlain jsonType.name := by
  cases jsonType <;> decide

end Scanner

open Scanner

/-! ### Entries and sections -/

/-- The call that documents a parameter. -/
theorem leads_parameterCall (name description : String) :
    Leads ⟨.code, 3⟩ ⟨.code, 3⟩ (parameterCall name description) := by
  have hopen : Leads ⟨.code, 3⟩ ⟨.literal, 4⟩ "parameterWithName(\"" := by decide
  have hnext : Leads ⟨.literal, 4⟩ ⟨.literal, 4⟩ "\").description(\"" := by decide
  have hclose : Leads ⟨.literal, 4⟩ ⟨.code, 3⟩ "\")" := by decide
  exact (((hopen.append (.escape name)).append hnext).append (.escape description)).append hclose

/-- The call that documents a field or a parameter. -/
theorem FieldEntry.leads_render (entry : FieldEntry) (mode : PayloadMode) :
    Leads ⟨.code, 3⟩ ⟨.code, 3⟩ (entry.render mode) := by
  have hopen : Leads ⟨.code, 3⟩ ⟨.literal, 4⟩ "fieldWithPath(\"" := by decide
  have htype : Leads ⟨.literal, 4⟩ ⟨.code, 4⟩ "\").type(JsonFieldType." := by decide
  have hnext : Leads ⟨.code, 4⟩ ⟨.literal, 4⟩ ").description(\"" := by decide
  have hclose : Leads ⟨.literal, 4⟩ ⟨.code, 3⟩ "\")" := by decide
  cases mode with
  | modelAttribute => exact leads_parameterCall entry.path entry.description
  | requestBody | responseBody =>
    exact (((((hopen.append (.escape entry.path)).append htype).append
      (isPlain_name entry.jsonType).leads).append hnext).append (.escape entry.description)).append
        hclose

theorem FieldSet.leads_rendered (set : FieldSet) :
    ∀ call ∈ set.rendered, Leads ⟨.code, 3⟩ ⟨.code, 3⟩ call := by
  intro call hcall
  obtain ⟨entry, -, rfl⟩ := List.mem_map.mp hcall
  exact entry.leads_render set.mode

namespace SnippetParts

theorem leads_parameterEntry (ps : List BoundParameter) :
    ∀ call ∈ ps.map parameterEntry, Leads ⟨.code, 3⟩ ⟨.code, 3⟩ call := by
  intro call hcall
  obtain ⟨p, -, rfl⟩ := List.mem_map.mp hcall
  exact leads_parameterCall p.name ""

/-- A section closes what it opens. -/
theorem leads_entriesText {name : String} (hname : IsPlain name) {entries : List String}
    (h : ∀ call ∈ entries, Leads ⟨.code, 3⟩ ⟨.code, 3⟩ call) :
    Leads ⟨.code, 2⟩ ⟨.code, 2⟩ (entriesText name entries) := by
  cases entries with
  | nil => exact .empty
  | cons entry entries =>
    have hline : Leads ⟨.code, 2⟩ ⟨.code, 2⟩ ",\n\t\t\t" := by decide
    have hopen : Leads ⟨.code, 2⟩ ⟨.code, 3⟩ "(\n\t\t\t\t" := by decide
    have hseparator : Leads ⟨.code, 3⟩ ⟨.code, 3⟩ SnippetSection.separator := by decide
    have hclose : Leads ⟨.code, 3⟩ ⟨.code, 2⟩ "\n\t\t\t)" := by decide
    have hothers : ∀ text ∈ entries.map (SnippetSection.separator ++ ·),
        Leads ⟨.code, 3⟩ ⟨.code, 3⟩ text := by
      intro text htext
      obtain ⟨other, hother, rfl⟩ := List.mem_map.mp htext
      exact hseparator.append (h other (List.mem_cons_of_mem entry hother))
    rw [entriesText_cons]
    exact hline.append (hname.leads.append (hopen.append ((h entry List.mem_cons_self).append
      ((Leads.join hothers).append hclose))))

/-! ### Settings -/

/-- A line stands between the parentheses of the call that performs the request. -/
theorem leads_linesText {lines : List String}
    (h : ∀ line ∈ lines, Leads ⟨.code, 1⟩ ⟨.code, 1⟩ line) :
    Leads ⟨.code, 1⟩ ⟨.code, 1⟩ (linesText lines) := by
  have hbreak : Leads ⟨.code, 1⟩ ⟨.code, 1⟩ "\n\t" := by decide
  refine Leads.join fun text htext => ?_
  obtain ⟨line, hline, rfl⟩ := List.mem_map.mp htext
  exact hbreak.append (h line hline)

/-- A call with a plain argument. -/
theorem leads_call {opening argument : String} (hopen : Leads ⟨.code, 1⟩ ⟨.code, 2⟩ opening)
    (hargument : IsPlain argument) : Leads ⟨.code, 1⟩ ⟨.code, 1⟩ (opening ++ argument ++ ")") :=
  have hclose : Leads ⟨.code, 2⟩ ⟨.code, 1⟩ ")" := by decide
  (hopen.append hargument.leads).append hclose

theorem leads_bodyLines {contentType : String} {body : Option BoundParameter}
    (hcontent : IsPlain contentType) (hbody : ∀ p ∈ body, IsPlain p.variableName) :
    ∀ line ∈ bodyLines contentType body, Leads ⟨.code, 1⟩ ⟨.code, 1⟩ line := by
  cases body with
  | none => exact fun _ h => absurd h List.not_mem_nil
  | some p =>
    rw [bodyLines, List.forall_mem_cons, List.forall_mem_cons, List.forall_mem_singleton]
    exact ⟨leads_call (by decide) hcontent, leads_call (by decide) hcontent,
      leads_call (by decide) (hbody p rfl)⟩

theorem leads_modelLines {model : Option BoundParameter}
    (hmodel : ∀ p ∈ model, IsPlain p.variableName) :
    ∀ line ∈ modelLines model, Leads ⟨.code, 1⟩ ⟨.code, 1⟩ line := by
  cases model with
  | none => exact fun _ h => absurd h List.not_mem_nil
  | some p =>
    rw [modelLines, List.forall_mem_singleton]
    exact leads_call (by decide) (hmodel p rfl)

theorem leads_queryLine {p : BoundParameter} (h : IsPlain p.variableName) :
    Leads ⟨.code, 1⟩ ⟨.code, 1⟩ (queryLine p) := by
  have hopen : Leads ⟨.code, 1⟩ ⟨.literal, 2⟩ ".param(\"" := by decide
  have hnext : Leads ⟨.literal, 2⟩ ⟨.code, 2⟩ "\", " := by decide
  have hclose : Leads ⟨.code, 2⟩ ⟨.code, 1⟩ ")" := by decide
  exact (((hopen.append (.escape p.name)).append hnext).append h.leads).append hclose

theorem leads_variablesText {ps : List BoundParameter} (h : ∀ p ∈ ps, IsPlain p.variableName) :
    Leads ⟨.code, 2⟩ ⟨.code, 2⟩ (variablesText ps) := by
  have hcomma : Leads ⟨.code, 2⟩ ⟨.code, 2⟩ ", " := by decide
  refine Leads.join fun text htext => ?_
  obtain ⟨p, hp, rfl⟩ := List.mem_map.mp htext
  exact hcomma.append (h p hp).leads

end SnippetParts

/-! ### Whole snippets -/

open SnippetParts

/-- **Snippets are closed.** A scanner gets through the whole text of a snippet, from left to right:
it is outside of literals at the end, there is no line break or tab in a literal, no parenthesis is
closed that is not open, and none is left open. Only the name of the client, the content type and
the variables are written as they are, so only these have to be plain; paths, keys, descriptions and
the identifier may have all characters. -/
theorem assemble_isClosed (config : Config) (request : RequestDescription) (fields : PayloadFields)
    (hclient : IsPlain config.clientName) (hcontent : IsPlain config.contentType)
    (hvariables : ∀ p ∈ request.all, IsPlain p.variableName) :
    Leads {} {} (assemble config request fields) := by
  have hpath : ∀ p ∈ request.pathVariables, IsPlain p.variableName :=
    fun p hp => hvariables p (by simp [RequestSlots.all, hp])
  have hquery : ∀ p ∈ request.queryParams, IsPlain p.variableName :=
    fun p hp => hvariables p (by simp [RequestSlots.all, hp])
  have hbody : ∀ p ∈ request.body, IsPlain p.variableName :=
    fun p hp => hvariables p (by simp [RequestSlots.all, Option.mem_def.mp hp])
  have hmodel : ∀ p ∈ request.modelAttribute, IsPlain p.variableName :=
    fun p hp => hvariables p (by simp [RequestSlots.all, Option.mem_def.mp hp])
  have hqueryLines : ∀ line ∈ request.queryParams.map queryLine,
      Leads ⟨.code, 1⟩ ⟨.code, 1⟩ line := by
    intro line hline
    obtain ⟨p, hp, rfl⟩ := List.mem_map.mp hline
    exact leads_queryLine (hquery p hp)
  have hparameters : ∀ call ∈ request.queryParams.map parameterEntry ++
      fields.modelAttribute.rendered, Leads ⟨.code, 3⟩ ⟨.code, 3⟩ call :=
    List.forall_mem_append.mpr ⟨leads_parameterEntry _, fields.modelAttribute.leads_rendered⟩
  rw [assemble_eq]
  -- The request, with its settings.
  refine hclient.leads.append (.append (t := ⟨.code, 1⟩) (by decide) ?_)
  refine (isPlain_builder _).leads.append (.append (t := ⟨.code, 2⟩) (by decide) ?_)
  refine (Leads.literal _).append ((leads_variablesText hpath).append ?_)
  refine .append (t := ⟨.code, 1⟩) (by decide) ?_
  refine (leads_linesText (leads_bodyLines hcontent hbody)).append ?_
  refine (leads_linesText (leads_modelLines hmodel)).append ?_
  refine (leads_linesText hqueryLines).append ?_
  -- The documentation, with its identifier and its sections.
  refine .append (t := ⟨.literal, 2⟩) (by decide) ((Leads.escape _).append ?_)
  refine .append (t := ⟨.code, 2⟩) (by decide) ?_
  refine (leads_entriesText (by decide) hparameters).append ?_
  refine (leads_entriesText (by decide) (leads_parameterEntry _)).append ?_
  refine (leads_entriesText (by decide) fields.requestBody.leads_rendered).append ?_
  refine (leads_entriesText (by decide) fields.responseBody.leads_rendered).append ?_
  exact .append (t := ⟨.code, 1⟩) (by decide) (by decide)

/-- A request of which no text is harmless. -/
private def hostile : RequestDescription where
  methodName := "search"
  httpMethod := .post
  path := "/\"); stop(\\"
  pathVariables :=
    [{ name := "a\"", variableName := "a", type := .wildcard, role := .pathVariable }]
  queryParams := [{ name := "\n(", variableName := "b", type := .wildcard, role := .queryParam }]
  body := some { name := "c", variableName := "c", type := .wildcard, role := .body }

/-- Fields of which no text is harmless. -/
private def hostileFields : PayloadFields where
  responseBody :=
    { mode := .responseBody
      entries := [{ path := "\\", jsonType := .number, description := "\t\")" }] }

/-- Quotes, parentheses, line breaks and a backslash at the end do no harm. -/
theorem assemble_isClosed_hostile :
    let config : Config := { documentIdentifier := some "\")" }
    IsPlain config.clientName ∧ IsPlain config.contentType ∧
      (∀ p ∈ hostile.all, IsPlain p.variableName) ∧
      Leads {} {} (assemble config hostile hostileFields) := by
  intro config
  have hclient : IsPlain config.clientName := by decide
  have hcontent : IsPlain config.contentType := by decide
  have hvariables : ∀ p ∈ hostile.all, IsPlain p.variableName := by decide
  exact ⟨hclient, hcontent, hvariables,
    assemble_isClosed config hostile hostileFields hclient hcontent hvariables⟩

end HandlerDocs
