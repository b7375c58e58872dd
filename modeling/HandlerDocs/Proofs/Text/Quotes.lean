import HandlerDocs.Proofs.Text.Literal
import Mathlib.Data.List.Basic

/-!
# Texts between quotes

A text that starts and ends with a quote need not be a literal. It is one if the first quote is
closed by the last: from left to right, where a backslash takes the character behind it along, the
text between them has no other quote, and no backslash that is left over (`IsBody`). Any other text
goes on like this up to such a quote or such a backslash (`isBody_or`).

Reading a literal looks at the two quotes and at nothing in between. Literals get their values, and
texts that are not between quotes stay as they are. All other texts lose two quotes that do not
belong together: of a concatenation of literals, the first and the last.

* `IsBody`, `IsLiteral`, `IsQuoted` — literals, and texts between quotes.
* `IsBody.of_append` — what follows the beginning of a body.
* `unquote_of_quotes` — which texts lose their quotes, and what is left of them.
-/

namespace HandlerDocs

namespace Text

/-! ### Literals -/

/-- The text between the quotes of a literal, with the value of the literal. -/
inductive IsBody : List Char → List Char → Prop
  | nil : IsBody [] []
  | char {c : Char} {body value : List Char} :
    c ≠ '"' → c ≠ '\\' → IsBody body value → IsBody (c :: body) (c :: value)
  | pair (c : Char) {body value : List Char} :
    IsBody body value → IsBody ('\\' :: c :: body) (escapedChar c :: value)

/-- One complete literal, with its value. -/
def IsLiteral (s value : List Char) : Prop :=
  ∃ body, s = '"' :: (body ++ ['"']) ∧ IsBody body value

/-- A text between two quotes, whatever it is. -/
def IsQuoted (s : List Char) : Prop :=
  ∃ inner, s = '"' :: (inner ++ ['"'])

/-- A literal that is written for a value is one for this value. -/
theorem isBody_escape (value : List Char) : IsBody (escape value) value := by
  induction value with
  | nil => exact .nil
  | cons c value ih =>
    rw [escape_cons]
    unfold escapeChar
    split
    · exact .pair '\\' ih
    · exact .pair '"' ih
    · exact .pair 'n' ih
    · exact .pair 'r' ih
    · exact .pair 't' ih
    · exact .char ‹_› ‹_› ih

theorem IsBody.of_cons {c : Char} {rest whole : List Char} (hne : c ≠ '\\')
    (h : IsBody (c :: rest) whole) : c ≠ '"' ∧ ∃ behind, IsBody rest behind := by
  cases h with
  | char hquote _ hrest => exact ⟨hquote, _, hrest⟩
  | pair _ _ => exact absurd rfl hne

theorem IsBody.of_pair {c : Char} {rest whole : List Char} (h : IsBody ('\\' :: c :: rest) whole) :
    ∃ behind, IsBody rest behind := by
  cases h with
  | char _ hne _ => exact absurd rfl hne
  | pair _ hrest => exact ⟨_, hrest⟩

/-- Behind a body, a body goes on with another one. -/
theorem IsBody.of_append {body value rest whole : List Char} (h : IsBody body value)
    (hwhole : IsBody (body ++ rest) whole) : ∃ behind, IsBody rest behind := by
  induction h generalizing whole with
  | nil => exact ⟨whole, hwhole⟩
  | char _ hne _ ih =>
    obtain ⟨-, _, hrest⟩ := IsBody.of_cons hne hwhole
    exact ih hrest
  | pair _ _ ih =>
    obtain ⟨_, hrest⟩ := IsBody.of_pair hwhole
    exact ih hrest

/-- A quote that is not escaped ends a body. -/
theorem IsBody.not_append_quote {body value : List Char} (h : IsBody body value)
    (rest whole : List Char) : ¬ IsBody (body ++ '"' :: rest) whole := by
  intro hwhole
  obtain ⟨_, hbehind⟩ := h.of_append hwhole
  exact (IsBody.of_cons (by decide) hbehind).1 rfl

/-- A backslash with nothing behind it is not part of a body. -/
theorem IsBody.not_append_backslash {body value : List Char} (h : IsBody body value)
    (whole : List Char) : ¬ IsBody (body ++ ['\\']) whole := by
  intro hwhole
  obtain ⟨_, hbehind⟩ := h.of_append hwhole
  cases hbehind with
  | char _ hne _ => exact hne rfl

/-- What is no body has a first quote that is not escaped, or a backslash at its end that escapes
nothing. -/
theorem isBody_or (inner : List Char) :
    (∃ value, IsBody inner value) ∨
      ∃ body value, IsBody body value ∧
        ((∃ rest, inner = body ++ '"' :: rest) ∨ inner = body ++ ['\\']) := by
  -- The reader pairs a backslash with the character behind it in the same way as a body does.
  fun_induction unescape inner with
  | case1 => exact .inl ⟨[], .nil⟩
  | case2 => exact .inr ⟨[], [], .nil, .inr rfl⟩
  | case3 c rest ih =>
    rcases ih with ⟨value, h⟩ | ⟨body, value, h, ⟨behind, rfl⟩ | rfl⟩
    · exact .inl ⟨_, .pair c h⟩
    · exact .inr ⟨_, _, .pair c h, .inl ⟨behind, rfl⟩⟩
    · exact .inr ⟨_, _, .pair c h, .inr rfl⟩
  | case4 c rest hend hpair ih =>
    by_cases hquote : c = '"'
    · exact .inr ⟨[], [], .nil, .inl ⟨rest, by rw [hquote]; rfl⟩⟩
    have hne : c ≠ '\\' := by
      rintro rfl
      cases rest with
      | nil => exact hend rfl rfl
      | cons d rest => exact hpair d rest rfl rfl
    rcases ih with ⟨value, h⟩ | ⟨body, value, h, ⟨behind, rfl⟩ | rfl⟩
    · exact .inl ⟨_, .char hquote hne h⟩
    · exact .inr ⟨_, _, .char hquote hne h, .inl ⟨behind, rfl⟩⟩
    · exact .inr ⟨_, _, .char hquote hne h, .inr rfl⟩

theorem IsLiteral.isQuoted {s value : List Char} (h : IsLiteral s value) : IsQuoted s := by
  obtain ⟨body, hs, -⟩ := h
  exact ⟨body, hs⟩

theorem not_isLiteral_of_forall {inner : List Char} (h : ∀ value, ¬ IsBody inner value)
    (value : List Char) : ¬ IsLiteral ('"' :: (inner ++ ['"'])) value := by
  rintro ⟨body, heq, hbody⟩
  obtain rfl : inner = body := List.append_cancel_right (List.cons.inj heq).2
  exact h value hbody

/-! ### Reading -/

theorem unescape_cons {c : Char} (h : c ≠ '\\') (rest : List Char) :
    unescape (c :: rest) = c :: unescape rest := by
  rw [unescape]
  · rintro rfl
    exact absurd rfl h
  · rintro _ _ rfl
    exact absurd rfl h

/-- A body is read as its value, whatever follows. -/
theorem IsBody.unescape_append {body value : List Char} (h : IsBody body value)
    (rest : List Char) : unescape (body ++ rest) = value ++ unescape rest := by
  induction h with
  | nil => rfl
  | char _ hne _ ih => rw [List.cons_append, unescape_cons hne, ih, List.cons_append]
  | pair c _ ih => rw [List.cons_append, List.cons_append, unescape, ih, List.cons_append]

theorem length_unescape_le (s : List Char) : (unescape s).length ≤ s.length := by
  fun_induction unescape s with
  | case1 => exact Nat.le_refl 0
  | case2 => exact Nat.le_refl 1
  | case3 c rest ih => exact Nat.succ_le_succ (Nat.le_succ_of_le ih)
  | case4 c rest _ _ ih => exact Nat.succ_le_succ ih

theorem betweenQuotes?_quoted (inner : List Char) :
    betweenQuotes? ('"' :: (inner ++ ['"'])) = some inner := by
  rw [betweenQuotes?, if_pos List.getLast?_concat, List.dropLast_concat]

theorem isQuoted_iff {s : List Char} : IsQuoted s ↔ (betweenQuotes? s).isSome = true := by
  constructor
  · rintro ⟨inner, rfl⟩
    rw [betweenQuotes?_quoted]
    rfl
  · intro h
    unfold betweenQuotes? at h
    split at h
    · split_ifs at h with hlast
      · obtain ⟨inner, rfl⟩ := List.getLast?_eq_some_iff.mp hlast
        exact ⟨inner, rfl⟩
      · exact absurd h Bool.false_ne_true
    · exact absurd h Bool.false_ne_true

instance (s : List Char) : Decidable (IsQuoted s) :=
  decidable_of_iff _ isQuoted_iff.symm

theorem unquote_quoted {s inner : List Char} (h : trim s = '"' :: (inner ++ ['"'])) :
    unquote s = unescape inner := by
  rw [unquote, h, betweenQuotes?_quoted]

theorem unquote_of_not_isQuoted {s : List Char} (h : ¬ IsQuoted (trim s)) :
    unquote s = trim s := by
  rw [isQuoted_iff, Option.not_isSome_iff_eq_none] at h
  rw [unquote, h]

/-- A text between quotes always loses them, as nothing in it becomes longer. -/
theorem unquote_ne_trim {s : List Char} (h : IsQuoted (trim s)) : unquote s ≠ trim s := by
  obtain ⟨inner, hinner⟩ := h
  rw [unquote_quoted hinner, hinner]
  intro heq
  have hlength := length_unescape_le inner
  rw [heq, List.length_cons, List.length_append] at hlength
  omega

end Text

open Text

theorem toList_unquote (s : String) : (unquote s).toList = Text.unquote s.toList :=
  String.toList_ofList

theorem toList_trimmed (s : String) : (trimmed s).toList = trim s.toList :=
  String.toList_ofList

/-- **Which texts lose their quotes.** One complete literal is read as its value. A text that is no
such literal is left as it is, but for blanks at its ends, exactly when it is not between quotes.
If it is, the first quote in between that is not escaped stays, and all that follows up to the last
quote is read as if it were in a literal; or else the last quote is escaped, and its backslash
stays. -/
theorem unquote_of_quotes (s : String) :
    (∀ value, IsLiteral (trimmed s).toList value → (unquote s).toList = value) ∧
    ((∀ value, ¬ IsLiteral (trimmed s).toList value) →
      (unquote s = trimmed s ↔ ¬ IsQuoted (trimmed s).toList) ∧
      ∀ inner, (trimmed s).toList = '"' :: (inner ++ ['"']) →
        ∃ body value, IsBody body value ∧
          ((∃ rest, inner = body ++ '"' :: rest ∧
            (unquote s).toList = value ++ '"' :: unescape rest) ∨
          (inner = body ++ ['\\'] ∧ (unquote s).toList = value ++ ['\\']))) := by
  rw [toList_unquote, toList_trimmed, ← String.toList_inj, toList_unquote, toList_trimmed]
  refine ⟨?_, fun hnone => ⟨⟨?_, ?_⟩, ?_⟩⟩
  · rintro value ⟨body, htrim, hbody⟩
    have hread := hbody.unescape_append []
    rw [List.append_nil] at hread
    rw [unquote_quoted htrim, hread, unescape, List.append_nil]
  · exact fun heq hquoted => unquote_ne_trim hquoted heq
  · exact unquote_of_not_isQuoted
  · intro inner htrim
    have hnobody : ¬ ∃ value, IsBody inner value := by
      rintro ⟨value, hbody⟩
      exact hnone value ⟨inner, htrim, hbody⟩
    obtain ⟨body, value, hbody, ⟨rest, rfl⟩ | rfl⟩ := (isBody_or inner).resolve_left hnobody
    · refine ⟨body, value, hbody, .inl ⟨rest, rfl, ?_⟩⟩
      rw [unquote_quoted htrim, hbody.unescape_append, unescape_cons (by decide)]
    · refine ⟨body, value, hbody, .inr ⟨rfl, ?_⟩⟩
      rw [unquote_quoted htrim, hbody.unescape_append]
      rfl

/-- A literal with escaped quotes, a constant, and a literal whose last quote is escaped. -/
theorem unquote_of_quotes_hello :
    (IsLiteral (trimmed " \"say \\\"hi\\\"\" ").toList "say \"hi\"".toList ∧
      (unquote " \"say \\\"hi\\\"\" ").toList = "say \"hi\"".toList) ∧
    ((∀ value, ¬ IsLiteral (trimmed " Paths.BASE").toList value) ∧
      unquote " Paths.BASE" = trimmed " Paths.BASE") ∧
    ((∀ value, ¬ IsLiteral (trimmed "\"C:\\\"").toList value) ∧
      (trimmed "\"C:\\\"").toList = '"' :: ("C:\\".toList ++ ['"']) ∧
      ∃ body value, IsBody body value ∧
        ((∃ rest, "C:\\".toList = body ++ '"' :: rest ∧
          (unquote "\"C:\\\"").toList = value ++ '"' :: unescape rest) ∨
        ("C:\\".toList = body ++ ['\\'] ∧
          (unquote "\"C:\\\"").toList = value ++ ['\\']))) := by
  have hhello : IsLiteral (trimmed " \"say \\\"hi\\\"\" ").toList "say \"hi\"".toList :=
    ⟨Text.escape "say \"hi\"".toList, by decide +kernel, isBody_escape _⟩
  have hconstant : ∀ value, ¬ IsLiteral (trimmed " Paths.BASE").toList value :=
    fun value h => absurd h.isQuoted (by decide +kernel)
  have htrim : (trimmed "\"C:\\\"").toList = '"' :: ("C:\\".toList ++ ['"']) := by decide +kernel
  have hopen : ∀ value, ¬ IsLiteral (trimmed "\"C:\\\"").toList value := by
    have hinner : "C:\\".toList = Text.escape "C:".toList ++ ['\\'] := by decide +kernel
    rw [htrim, hinner]
    exact not_isLiteral_of_forall (isBody_escape "C:".toList).not_append_backslash
  obtain ⟨hliteral, -⟩ := unquote_of_quotes " \"say \\\"hi\\\"\" "
  obtain ⟨hother, -⟩ := (unquote_of_quotes " Paths.BASE").2 hconstant
  obtain ⟨-, hbroken⟩ := (unquote_of_quotes "\"C:\\\"").2 hopen
  exact ⟨⟨hhello, hliteral _ hhello⟩, ⟨hconstant, hother.mpr (by decide +kernel)⟩,
    hopen, htrim, hbroken _ htrim⟩

/-- A concatenation of two literals is no literal, and loses the first and the last quote. -/
theorem unquote_concatenation :
    (∀ value, ¬ IsLiteral (trimmed "\"a\" + \"b\"").toList value) ∧
    unquote "\"a\" + \"b\"" = "a\" + \"b" ∧
    unquote "\"a\" + \"b\"" ≠ trimmed "\"a\" + \"b\"" := by
  refine ⟨?_, by decide +kernel, by decide +kernel⟩
  have htrim : (trimmed "\"a\" + \"b\"").toList =
      '"' :: (Text.escape ['a'] ++ '"' :: " + \"b".toList ++ ['"']) := by
    decide +kernel
  rw [htrim]
  exact not_isLiteral_of_forall ((isBody_escape ['a']).not_append_quote _)

end HandlerDocs
