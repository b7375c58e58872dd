import HandlerDocs.Proofs.Text.Literal
import HandlerDocs.Request.Extract
import HandlerDocs.Snippet

/-!
# The layout of a snippet

The text of a snippet as one chain of parts, from left to right: fixed words, values that are
written as they are, literals, and lists of which each element brings its own words along. A proof
about the text goes along this chain.

* `SnippetParts.assemble_eq` — the chain.
* `SnippetParts.entriesText` — a section of it, which is left out when it has no entries.
-/

namespace HandlerDocs

namespace SnippetParts

/-- The path variables, each behind a comma. -/
def variablesText (ps : List BoundParameter) : String :=
  String.join (ps.map fun p => ", " ++ p.variableName)

/-- Settings, each on a line of its own. -/
def linesText (lines : List String) : String :=
  String.join (lines.map lineText)

/-- What is chained behind the request, up to the identifier of the documentation. -/
def chainText : String :=
  ")" ++ "\n\t.andDo(print())" ++ "\n\t.andExpect(status().isOk())" ++ "\n\t.andDo(" ++
    "\n\t\tdocument(\""

/-- The section with a list of entries, which is left out when there are none. -/
def entriesText (name : String) (entries : List String) : String :=
  ((SnippetSection.ofEntries? name entries).map sectionText).getD ""

@[simp] theorem entriesText_nil (name : String) : entriesText name [] = "" := rfl

/-- All texts but the first bring a separator along. -/
theorem intercalate_cons (separator first : String) (others : List String) :
    separator.intercalate (first :: others) =
      first ++ String.join (others.map (separator ++ ·)) := by
  induction others generalizing first with
  | nil => simp
  | cons second others ih =>
    rw [String.intercalate_cons_cons, ih, List.map_cons, String.join_cons, String.append_assoc,
      String.append_assoc]

/-- The entries of a section stand behind each other, with a separator in front of all but the
first. -/
theorem entriesText_cons (name entry : String) (entries : List String) :
    entriesText name (entry :: entries) =
      ",\n\t\t\t" ++ (name ++ ("(\n\t\t\t\t" ++ (entry ++
        (String.join (entries.map (SnippetSection.separator ++ ·)) ++ "\n\t\t\t)")))) := by
  simp only [entriesText, SnippetSection.ofEntries?, Option.map_some, Option.getD_some, sectionText,
    intercalate_cons, String.append_assoc]

/-- The arguments of the request builder are the path and the path variables. -/
theorem targetOf_eq (request : RequestDescription) :
    targetOf request = literal request.path ++ variablesText request.pathVariables := by
  have hbehind (ps : List BoundParameter) (target : String) :
      ps.foldl (fun target p => target ++ ", " ++ p.variableName) target =
        target ++ variablesText ps := by
    induction ps generalizing target with
    | nil => simp [variablesText]
    | cons p ps ih =>
      rw [List.foldl_cons, ih]
      simp [variablesText, String.append_assoc]
  exact hbehind _ _

/-- There are four places for sections. -/
theorem sectionsText_eq (request : RequestDescription) (fields : PayloadFields) :
    String.join ((sectionsOf request fields).map sectionText) =
      entriesText "requestParameters"
          (request.queryParams.map parameterEntry ++ fields.modelAttribute.rendered) ++
        (entriesText "pathParameters" (request.pathVariables.map parameterEntry) ++
          (entriesText "requestFields" fields.requestBody.rendered ++
            entriesText "responseFields" fields.responseBody.rendered)) := by
  have hjoin (os : List (Option SnippetSection)) :
      String.join ((os.filterMap id).map sectionText) =
        String.join (os.map fun o => (o.map sectionText).getD "") := by
    induction os with
    | nil => rfl
    | cons o os ih => cases o <;> simp_all
  rw [sectionsOf, hjoin]
  simp [entriesText]

/-- The text of a snippet, part by part. -/
theorem assemble_eq (config : Config) (request : RequestDescription) (fields : PayloadFields) :
    assemble config request fields =
      config.clientName ++ (".perform(" ++ (request.httpMethod.builder ++ ("(" ++
        (literal request.path ++ (variablesText request.pathVariables ++ (")" ++
          (linesText (bodyLines config.contentType request.body) ++
            (linesText (modelLines request.modelAttribute) ++
              (linesText (request.queryParams.map queryLine) ++
                (chainText ++ (escape (identifierOf config request) ++ ("\"" ++
                  (entriesText "requestParameters"
                      (request.queryParams.map parameterEntry ++ fields.modelAttribute.rendered) ++
                    (entriesText "pathParameters" (request.pathVariables.map parameterEntry) ++
                      (entriesText "requestFields" fields.requestBody.rendered ++
                        (entriesText "responseFields" fields.responseBody.rendered ++
                          ("\n\t\t)" ++ "\n\t);"))))))))))))))))) := by
  have htext (parts : SnippetParts) :
      parts.text = parts.client ++ ".perform(" ++ parts.method ++ "(" ++ parts.target ++ ")" ++
        linesText parts.callLines ++ chainText ++ parts.document ++ "\"" ++
          String.join (parts.sections.map sectionText) ++ "\n\t\t)" ++ "\n\t);" := by
    simp only [chainText, ← String.append_assoc]
    rfl
  simp only [assemble, htext, make, targetOf_eq, callLinesOf, linesText, sectionsText_eq,
    List.map_append, String.join_append, String.append_assoc]

end SnippetParts

end HandlerDocs
