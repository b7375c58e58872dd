import HandlerDocs.Generation
import HandlerDocs.Proofs.Request.Parameters
import HandlerDocs.Proofs.Snippet.Layout
import HandlerDocs.Proofs.Text.Ends

/-!
# Placeholders and path variables

A placeholder of a path is a text between braces without `}` and `/` inside. Placeholders are found
from left to right, one behind the other (`Finds`). Counting them needs no search: the path is cut
behind each `}` and each `/`, and a piece that ends with `}` holds a placeholder exactly when it
also holds a `{` (`isFilled`). As a `/` always cuts, the placeholders of two joined paths are those
of the one and those of the other.

The number of placeholders is compared with that of the path variables, and each path variable is
an argument of the request builder.

* `Path.countPlaceholders_of_finds` — the placeholders that are found.
* `Path.countPlaceholders_eq_countP` — the pieces that hold one.
* `Path.placeholderCount_join` — joined paths.
* `SnippetParts.exists_assemble_eq` — the arguments of the request builder.
* `Generator.generate?_placeholders` — all of it, up to the snippets of handlers.
-/

namespace HandlerDocs

namespace Path

open Text

/-! ### Finding placeholders -/

/-- A text between braces, without a closing brace and without `/` inside. -/
def IsPlaceholder (m : List Char) : Prop :=
  ∃ inner, m = '{' :: (inner ++ ['}']) ∧ ∀ c ∈ inner, c ≠ '}' ∧ c ≠ '/'

/-- The placeholders of a text, found from left to right: where one starts, it is taken as a whole,
and elsewhere a character is passed over. -/
inductive Finds : List Char → List (List Char) → Prop
  | nil : Finds [] []
  | found {m r : List Char} {ms : List (List Char)} :
    IsPlaceholder m → Finds r ms → Finds (m ++ r) (m :: ms)
  | skip {c : Char} {s : List Char} {ms : List (List Char)} :
    (∀ m, IsPlaceholder m → ¬ m <+: c :: s) → Finds s ms → Finds (c :: s) ms

/-- The search comes to an end. -/
theorem exists_finds (s : List Char) : ∃ ms, Finds s ms := by
  -- What is taken or passed over is never empty.
  induction h : s.length using Nat.strongRecOn generalizing s with
  | ind n ih =>
    cases s with
    | nil => exact ⟨[], .nil⟩
    | cons c s =>
      by_cases hstart : ∃ m, IsPlaceholder m ∧ m <+: c :: s
      · obtain ⟨m, hm, r, hr⟩ := hstart
        have hlength : r.length < n := by
          obtain ⟨inner, rfl, -⟩ := hm
          rw [← h, ← hr]
          simp
          omega
        obtain ⟨ms, hms⟩ := ih _ hlength r rfl
        exact ⟨m :: ms, hr ▸ .found hm hms⟩
      · obtain ⟨ms, hms⟩ := ih s.length (by rw [← h]; exact Nat.lt_succ_self _) s rfl
        exact ⟨ms, .skip (fun m hm hprefix => hstart ⟨m, hm, hprefix⟩) hms⟩

/-! ### Counting placeholders -/

/-- Inside of a placeholder, nothing is decided in front of its end. -/
theorem countPlaceholders_inner {inner : List Char} (h : ∀ c ∈ inner, c ≠ '}' ∧ c ≠ '/')
    (r : List Char) : countPlaceholders true (inner ++ r) = countPlaceholders true r := by
  induction inner with
  | nil => rfl
  | cons c inner ih =>
    rw [List.forall_mem_cons] at h
    rw [List.cons_append, countPlaceholders, if_neg h.1.2, if_neg h.1.1, ih h.2, ite_self]

/-- A placeholder is counted. -/
theorem countPlaceholders_placeholder {m : List Char} (hm : IsPlaceholder m) (r : List Char) :
    countPlaceholders false (m ++ r) = countPlaceholders false r + 1 := by
  obtain ⟨inner, rfl, hinner⟩ := hm
  have hopen : countPlaceholders false ('{' :: (inner ++ '}' :: r)) =
      countPlaceholders true (inner ++ '}' :: r) := rfl
  have hclose : countPlaceholders true ('}' :: r) = 1 + countPlaceholders false r := rfl
  rw [List.cons_append, List.append_assoc, List.singleton_append, hopen,
    countPlaceholders_inner hinner, hclose, Nat.add_comm]

/-- A brace that is not closed in time might as well not be open. -/
theorem countPlaceholders_unclosed {s : List Char}
    (h : ∀ m, IsPlaceholder m → ¬ m <+: '{' :: s) :
    countPlaceholders true s = countPlaceholders false s := by
  induction s with
  | nil => rfl
  | cons c s ih =>
    have hne : c ≠ '}' := by
      rintro rfl
      exact h ['{', '}'] ⟨[], rfl, by simp⟩ (by simp)
    by_cases hslash : c = '/'
    · rw [countPlaceholders, countPlaceholders, if_pos hslash, if_pos hslash]
    · have hrest : countPlaceholders true s = countPlaceholders false s := by
        refine ih fun m hm hprefix => ?_
        -- A placeholder of the rest would go on around `c` as well.
        obtain ⟨inner, rfl, hinner⟩ := hm
        obtain ⟨r, hr⟩ := hprefix
        refine h ('{' :: (c :: inner ++ ['}'])) ⟨c :: inner, rfl, ?_⟩ ⟨r, ?_⟩
        · rw [List.forall_mem_cons]
          exact ⟨⟨hne, hslash⟩, hinner⟩
        · rw [← List.cons_inj_right '{'] at hr ⊢
          simpa using hr
      rw [countPlaceholders, countPlaceholders, if_neg hslash, if_neg hslash, if_neg hne,
        if_neg hne, hrest]

/-- A character that opens no brace is passed over. -/
theorem countPlaceholders_cons {c : Char} (h : c ≠ '{') (s : List Char) :
    countPlaceholders false (c :: s) = countPlaceholders false s := by
  simp [countPlaceholders, h]

/-- The placeholders that are found are those that are counted. -/
theorem countPlaceholders_of_finds {s : List Char} {ms : List (List Char)} (h : Finds s ms) :
    countPlaceholders false s = ms.length := by
  induction h with
  | nil => rfl
  | found hm _ ih => rw [countPlaceholders_placeholder hm, ih, List.length_cons]
  | @skip c s ms hnone _ ih =>
    by_cases hopen : c = '{'
    · subst hopen
      exact (countPlaceholders_unclosed hnone).trans ih
    · rw [countPlaceholders_cons hopen, ih]

/-! ### Pieces -/

/-- A text, cut behind each `}` and each `/`. -/
def pieces : List Char → List (List Char)
  | [] => []
  | c :: s =>
    if c = '}' ∨ c = '/' then [c] :: pieces s
    else
      match pieces s with
      | [] => [[c]]
      | p :: ps => (c :: p) :: ps

/-- Whether a piece ends with `}` and holds a `{`. -/
def isFilled (p : List Char) : Bool :=
  p.getLast? == some '}' && p.contains '{'

theorem ne_nil_of_mem_pieces {s p : List Char} (hp : p ∈ pieces s) : p ≠ [] := by
  induction s generalizing p with
  | nil => exact absurd hp List.not_mem_nil
  | cons c s ih =>
    rw [pieces] at hp
    split_ifs at hp with hcut
    · rcases List.mem_cons.mp hp with rfl | hp
      · simp
      · exact ih hp
    · cases hs : pieces s with
      | nil =>
        rw [hs] at hp
        simp [List.mem_singleton.mp hp]
      | cons q ps =>
        rw [hs] at hp ih
        rcases List.mem_cons.mp hp with rfl | hp
        · simp
        · exact ih (List.mem_cons_of_mem q hp)

/-- How many pieces hold a placeholder, if a brace is open in front of the first of them (`isOpen`)
or not. -/
def filledFrom (isOpen : Bool) : List (List Char) → Nat
  | [] => 0
  | p :: ps => (if p.getLast? = some '}' ∧ (isOpen ∨ '{' ∈ p) then 1 else 0) + ps.countP isFilled

theorem filledFrom_false (ps : List (List Char)) : filledFrom false ps = ps.countP isFilled := by
  cases ps with
  | nil => rfl
  | cons p ps => simp [filledFrom, isFilled, List.countP_cons, Nat.add_comm]

/-- Counting goes from piece to piece, and of each piece only remembers whether a brace is open. -/
theorem countPlaceholders_eq_filledFrom (isOpen : Bool) (s : List Char) :
    countPlaceholders isOpen s = filledFrom isOpen (pieces s) := by
  induction s generalizing isOpen with
  | nil => rfl
  | cons c s ih =>
    rw [countPlaceholders, pieces]
    by_cases hslash : c = '/'
    · have hcut : c = '}' ∨ c = '/' := .inr hslash
      rw [if_pos hslash, if_pos hcut, ih, filledFrom_false]
      simp [filledFrom, hslash]
    by_cases hclose : c = '}'
    · have hcut : c = '}' ∨ c = '/' := .inl hclose
      rw [if_neg hslash, if_pos hclose, if_pos hcut, ih, filledFrom_false]
      simp [filledFrom, hclose]
    have hcut : ¬ (c = '}' ∨ c = '/') := not_or.mpr ⟨hclose, hslash⟩
    rw [if_neg hslash, if_neg hclose, if_neg hcut, ih, ih]
    -- The character goes on with the first piece, of which it changes the beginning only.
    cases hs : pieces s with
    | nil => simp [filledFrom, hclose]
    | cons p ps =>
      have hne : p ≠ [] := ne_nil_of_mem_pieces (s := s) (hs ▸ List.mem_cons_self)
      have hlast : (c :: p).getLast? = p.getLast? := by
        rw [List.getLast?_cons, List.getLast?_eq_some_getLast hne, Option.getD_some]
      simp only [filledFrom, hlast, List.mem_cons]
      by_cases hopen : c = '{'
      · simp [hopen]
      · simp [hopen, Ne.symm hopen]

/-- The pieces with a placeholder are counted. -/
theorem countPlaceholders_eq_countP (s : List Char) :
    countPlaceholders false s = (pieces s).countP isFilled := by
  rw [countPlaceholders_eq_filledFrom, filledFrom_false]

/-! ### Joined paths -/

/-- Whether a character is no brace. -/
def isQuiet (c : Char) : Bool :=
  c != '{' && c != '}'

/-- In front of a text, characters that are no braces are passed over. -/
theorem countPlaceholders_dropWhile {p : Char → Bool} (hp : ∀ c, p c = true → isQuiet c = true)
    (s : List Char) : countPlaceholders false (s.dropWhile p) = countPlaceholders false s := by
  induction s with
  | nil => rfl
  | cons c s ih =>
    by_cases hc : p c = true
    · have hquiet := hp c hc
      rw [isQuiet, Bool.and_eq_true, bne_iff_ne] at hquiet
      rw [List.dropWhile_cons_of_pos hc, ih, countPlaceholders_cons hquiet.1]
    · rw [List.dropWhile_cons_of_neg hc]

/-- Without braces there are no placeholders, even behind an open one. -/
theorem countPlaceholders_of_quiet (isOpen : Bool) {w : List Char}
    (hw : ∀ c ∈ w, isQuiet c = true) : countPlaceholders isOpen w = 0 := by
  induction w generalizing isOpen with
  | nil => rfl
  | cons c w ih =>
    rw [List.forall_mem_cons, isQuiet, Bool.and_eq_true, bne_iff_ne, bne_iff_ne] at hw
    rw [countPlaceholders, if_neg hw.1.1, if_neg hw.1.2, ih _ hw.2, ih _ hw.2]
    exact ite_self _

/-- Behind a text, characters that are no braces close nothing. -/
theorem countPlaceholders_append_quiet (isOpen : Bool) (s : List Char) {w : List Char}
    (hw : ∀ c ∈ w, isQuiet c = true) :
    countPlaceholders isOpen (s ++ w) = countPlaceholders isOpen s := by
  induction s generalizing isOpen with
  | nil => exact countPlaceholders_of_quiet isOpen hw
  | cons c s ih =>
    rw [List.cons_append, countPlaceholders, countPlaceholders]
    simp only [ih]

theorem countPlaceholders_dropEndWhile {p : Char → Bool}
    (hp : ∀ c, p c = true → isQuiet c = true) (s : List Char) :
    countPlaceholders false (dropEndWhile p s) = countPlaceholders false s := by
  have hsplit : s = dropEndWhile p s ++ s.rtakeWhile p := by
    rw [dropEndWhile_eq_rdropWhile, List.rdropWhile_append_rtakeWhile]
  have hquiet : ∀ c ∈ s.rtakeWhile p, isQuiet c = true :=
    fun c hc => hp c (List.mem_rtakeWhile_imp hc)
  conv_rhs => rw [hsplit]
  rw [countPlaceholders_append_quiet _ _ hquiet]

theorem countPlaceholders_trim (s : List Char) :
    countPlaceholders false (trim s) = countPlaceholders false s := by
  have hblank : ∀ c, isBlank c = true → isQuiet c = true := by
    intro c hc
    rw [isQuiet, Bool.and_eq_true, bne_iff_ne, bne_iff_ne]
    constructor <;> rintro rfl <;> exact absurd hc (by decide)
  rw [trim, trimEnd, countPlaceholders_dropEndWhile hblank, trimStart,
    countPlaceholders_dropWhile hblank]

/-- No placeholder goes across a `/`. -/
theorem countPlaceholders_append_slash (isOpen : Bool) (s t : List Char) :
    countPlaceholders isOpen (s ++ '/' :: t) =
      countPlaceholders isOpen s + countPlaceholders false t := by
  induction s generalizing isOpen with
  | nil => exact (Nat.zero_add _).symm
  | cons c s ih =>
    rw [List.cons_append, countPlaceholders, countPlaceholders]
    simp only [ih]
    split_ifs <;> omega

/-- The placeholders of joined paths are those of both. -/
theorem placeholderCount_join (base path : String) :
    placeholderCount (join base path) = placeholderCount base + placeholderCount path := by
  have hslash : ∀ c, (c == '/') = true → isQuiet c = true := by
    intro c hc
    rw [beq_iff_eq.mp hc]
    decide
  rw [placeholderCount, placeholderCount, placeholderCount, join, String.toList_ofList, joinChars,
    ← countPlaceholders_trim base.toList, ← countPlaceholders_trim path.toList]
  generalize trim base.toList = base
  generalize trim path.toList = path
  cases base with
  | nil => exact (Nat.zero_add _).symm
  | cons b base =>
    cases path with
    | nil => rfl
    | cons p path =>
      -- A placeholder goes neither across the `/` in between nor across those that are dropped.
      rw [countPlaceholders_append_slash, countPlaceholders_dropEndWhile hslash,
        countPlaceholders_dropWhile hslash]

end Path

/-! ### Path variables -/

/-- Whether a diagnostic reports another number of placeholders than of path variables. -/
def Diagnostic.isPathVariableMismatch : Diagnostic → Bool
  | pathVariableMismatch .. => true
  | _ => false

namespace Parameter

/-- Nothing that is reported about parameters is about the path. -/
theorem isPathVariableMismatch_of_mem_reports {ps : List Parameter} {d : Diagnostic}
    (h : d ∈ reports ps) : d.isPathVariableMismatch = false := by
  obtain ⟨⟨p, i⟩, -, hd⟩ := List.mem_flatMap.mp h
  rcases List.mem_append.mp hd with hambiguity | hduplication
  · rw [ambiguity] at hambiguity
    split at hambiguity
    · rw [List.mem_singleton.mp hambiguity]
      rfl
    · exact absurd hambiguity List.not_mem_nil
  · rw [duplication] at hduplication
    split_ifs at hduplication
    · rw [List.mem_singleton.mp hduplication]
      rfl
    · exact absurd hduplication List.not_mem_nil

end Parameter

/-- There is one report about the path exactly when the numbers differ. -/
theorem placeholderMismatch_eq_nil_iff {path : String} {pathVariables : List BoundParameter} :
    (∀ d ∈ placeholderMismatch path pathVariables, d.isPathVariableMismatch = false) ↔
      Path.placeholderCount path = pathVariables.length := by
  rw [placeholderMismatch]
  split_ifs with h
  · simp [h]
  · simp [h, Diagnostic.isPathVariableMismatch]

/-- The text of a snippet up to the end of the arguments of the request builder. These are the path
literal and the path variables, with commas in between. -/
theorem SnippetParts.exists_assemble_eq (config : Config) (request : RequestDescription)
    (fields : PayloadFields) :
    ∃ behind, assemble config request fields =
      config.clientName ++ ".perform(" ++ request.httpMethod.builder ++ "(" ++
        ", ".intercalate
          (literal request.path :: request.pathVariables.map BoundParameter.variableName) ++
        ")" ++ behind := by
  have harguments : variablesText request.pathVariables =
      String.join ((request.pathVariables.map BoundParameter.variableName).map (", " ++ ·)) := by
    rw [variablesText, List.map_map]
    rfl
  rw [assemble_eq, intercalate_cons, ← harguments]
  simp only [String.append_assoc]
  exact ⟨_, rfl⟩

/-- **Placeholders and path variables.** The placeholders of a path are those that are found in it
from left to right, and there are as many of them as there are pieces with a `{`, when the path is
cut behind each `}` and each `/` and only the pieces that end with `}` are kept. Joined paths have
the placeholders of both. A handler with a mapping has a request, and the number of placeholders of
its path is reported at most once, as the last diagnostic, exactly when it is not the number of path
variables. The request builder of its snippet has the path literal and the path variables as
arguments, so as many path variables as there are placeholders when nothing is reported. -/
theorem Generator.generate?_placeholders :
    (∀ path : String,
      (∃ found, Path.Finds path.toList found) ∧
      (∀ found, Path.Finds path.toList found → Path.placeholderCount path = found.length) ∧
      Path.placeholderCount path = (Path.pieces path.toList).countP Path.isFilled) ∧
    (∀ base path : String,
      Path.placeholderCount (Path.join base path) =
        Path.placeholderCount base + Path.placeholderCount path) ∧
    (∀ (config : Config) (h : Handler), isApplicable h = true →
      ∃ request reports,
        h.describe? config =
          some (request, reports ++
            if Path.placeholderCount request.path = request.pathVariables.length then []
            else [.pathVariableMismatch request.path (Path.placeholderCount request.path)
              request.pathVariables.length]) ∧
        ∀ d ∈ reports, d.isPathVariableMismatch = false) ∧
    ∀ (g : Generator) (h : Handler), isApplicable h = true →
      ∃ snippet behind, g.generate? h = some snippet ∧
        snippet.text =
          g.config.clientName ++ ".perform(" ++ snippet.request.httpMethod.builder ++ "(" ++
            ", ".intercalate (literal snippet.request.path ::
              snippet.request.pathVariables.map BoundParameter.variableName) ++ ")" ++ behind ∧
        ((∀ d ∈ snippet.diagnostics, d.isPathVariableMismatch = false) →
          (snippet.request.pathVariables.map BoundParameter.variableName).length =
            Path.placeholderCount snippet.request.path) := by
  have hdescribe (config : Config) (h : Handler) (happlicable : isApplicable h = true) :
      ∃ request, h.describe? config =
        some (request, Parameter.reports h.parameters ++
          placeholderMismatch request.path request.pathVariables) := by
    obtain ⟨⟨method, source⟩, hmapping⟩ := Option.isSome_iff_exists.mp happlicable
    exact ⟨_, h.describe?_eq config hmapping⟩
  refine ⟨fun path => ⟨?_, ?_, ?_⟩, Path.placeholderCount_join, ?_, ?_⟩
  · exact Path.exists_finds _
  · exact fun found hfound => Path.countPlaceholders_of_finds hfound
  · exact Path.countPlaceholders_eq_countP _
  · intro config h happlicable
    obtain ⟨request, hrequest⟩ := hdescribe config h happlicable
    exact ⟨request, _, hrequest, fun d hd => Parameter.isPathVariableMismatch_of_mem_reports hd⟩
  · intro g h happlicable
    obtain ⟨request, hrequest⟩ := hdescribe g.config h happlicable
    let fields := documentFields g.toSurroundings request
    have hsnippet : g.generate? h = some
        { request
          text := assemble g.config request fields.1
          diagnostics := Parameter.reports h.parameters ++
            placeholderMismatch request.path request.pathVariables ++ fields.2 } := by
      rw [generate?, hrequest, Option.map_some]
    obtain ⟨behind, htext⟩ := SnippetParts.exists_assemble_eq g.config request fields.1
    refine ⟨_, behind, hsnippet, htext, fun hquiet => ?_⟩
    rw [List.length_map]
    refine (placeholderMismatch_eq_nil_iff.mp fun d hd => hquiet d ?_).symm
    exact List.mem_append_left _ (List.mem_append_right _ hd)

/-- A handler whose path has braces that enclose nothing besides two placeholders. -/
private def rename : Handler where
  name := "rename"
  annotations :=
    [{ name := "PutMapping",
       attributes := .ofList [("value", "\"/items/\x7b\x7bid\x7d\x7d/\x7bname\"")] }]
  controllerAnnotations :=
    [{ name := "RequestMapping",
       attributes := .ofList [("value", "\"/shops/\x7bshopId\x7d/\"")] }]
  parameters :=
    [{ name := "shopId", type := .primitive .long, annotations := [{ name := "PathVariable" }] },
      { name := "id", type := .primitive .long, annotations := [{ name := "PathVariable" }] }]

/-- Two placeholders, and two path variables behind the path. -/
theorem Generator.generate?_placeholders_rename :
    let g : Generator := { index := {}, config := {}, config_isValid := by decide +kernel }
    isApplicable rename = true ∧
      Path.placeholderCount "/items/\x7b\x7bid\x7d\x7d/\x7bname" = 1 ∧
      ∃ snippet, g.generate? rename = some snippet ∧ snippet.diagnostics = [] ∧
        Path.placeholderCount snippet.request.path = 2 ∧
        (snippet.request.pathVariables.map BoundParameter.variableName).length = 2 := by
  intro g
  have happlicable : isApplicable rename = true := by decide +kernel
  have hview : (g.generate? rename).map (fun s => (s.request.path, s.diagnostics)) =
      some ("/shops/\x7bshopId\x7d/items/\x7b\x7bid\x7d\x7d/\x7bname", []) := by
    decide +kernel
  obtain ⟨hcount, -, -, hsnippets⟩ := Generator.generate?_placeholders
  obtain ⟨snippet, -, hsnippet, -, harguments⟩ := hsnippets g rename happlicable
  rw [hsnippet, Option.map_some, Option.some_inj, Prod.mk.injEq] at hview
  obtain ⟨hpath, hquiet⟩ := hview
  have htwo : Path.placeholderCount snippet.request.path = 2 := by
    rw [hpath]
    decide +kernel
  refine ⟨happlicable, ?_, snippet, hsnippet, hquiet, htwo, ?_⟩
  · rw [(hcount _).2.2]
    decide +kernel
  · rw [harguments (by simp [hquiet]), htwo]

end HandlerDocs
