/-!
# Type references

A `TypeRef` is the declared type of a field, a parameter or a return value: a primitive type, a
class type with its generic arguments, an array, or a wildcard. Its **text** is canonical: it has no
blanks, separates arguments by commas and marks each array layer by `[]`.

* `TypeRef.text` — the canonical text.
* `TypeRef.erasedName` — the text without generic arguments.
* `TypeRef.isVoid` — the types that stand for "no payload".
-/

namespace HandlerDocs

/-- The types that are no classes. -/
inductive Primitive
  | boolean
  | byte
  | char
  | short
  | int
  | long
  | float
  | double
  | void
  deriving DecidableEq, Repr

namespace Primitive

/-- The keyword of a primitive type. -/
def keyword : Primitive → String
  | boolean => "boolean"
  | byte => "byte"
  | char => "char"
  | short => "short"
  | int => "int"
  | long => "long"
  | float => "float"
  | double => "double"
  | void => "void"

/-- All primitive types. -/
def all : List Primitive :=
  [boolean, byte, char, short, int, long, float, double, void]

/-- The primitive type with a keyword. -/
def ofKeyword? (word : String) : Option Primitive :=
  all.find? (·.keyword == word)

/-- Every primitive type is found by its keyword. -/
@[simp]
theorem ofKeyword?_keyword (p : Primitive) : ofKeyword? p.keyword = some p := by
  cases p <;> decide

/-- Only the keyword of a primitive type finds it. -/
theorem ofKeyword?_eq_some_iff {word : String} {p : Primitive} :
    ofKeyword? word = some p ↔ word = p.keyword := by
  constructor
  · intro h
    have := List.find?_some h
    simpa using (beq_iff_eq.1 this).symm
  · rintro rfl
    exact ofKeyword?_keyword p

end Primitive

/-- The declared type of a field, a parameter or a return value. -/
inductive TypeRef
  /-- A primitive type. -/
  | primitive (p : Primitive)
  /-- A class type with its generic arguments. -/
  | named (name : String) (arguments : List TypeRef)
  /-- An array. -/
  | array (element : TypeRef)
  /-- A wildcard that has no upper bound. -/
  | wildcard
  deriving Repr, Inhabited

namespace TypeRef

/-! ### Equality -/

mutual

/-- Equality of types is decidable. -/
def decideEq : (a b : TypeRef) → Decidable (a = b)
  | .primitive p, .primitive q =>
    if h : p = q then isTrue (by rw [h]) else isFalse (by simpa using h)
  | .named m as, .named n bs =>
    if h : m = n then
      match decideEqAll as bs with
      | isTrue h' => isTrue (by rw [h, h'])
      | isFalse h' => isFalse (by simpa [h] using h')
    else isFalse (by simp [h])
  | .array a, .array b =>
    match decideEq a b with
    | isTrue h => isTrue (by rw [h])
    | isFalse h => isFalse (by simpa using h)
  | .wildcard, .wildcard => isTrue rfl
  | .primitive _, .named _ _ | .primitive _, .array _ | .primitive _, .wildcard
  | .named _ _, .primitive _ | .named _ _, .array _ | .named _ _, .wildcard
  | .array _, .primitive _ | .array _, .named _ _ | .array _, .wildcard
  | .wildcard, .primitive _ | .wildcard, .named _ _ | .wildcard, .array _ =>
    isFalse (by simp)

/-- Equality of argument lists is decidable. -/
def decideEqAll : (as bs : List TypeRef) → Decidable (as = bs)
  | [], [] => isTrue rfl
  | a :: as, b :: bs =>
    match decideEq a b, decideEqAll as bs with
    | isTrue h, isTrue h' => isTrue (by rw [h, h'])
    | isFalse h, _ => isFalse (by simp [h])
    | _, isFalse h => isFalse (by simp [h])
  | [], _ :: _ | _ :: _, [] => isFalse (by simp)

end

instance : DecidableEq TypeRef := decideEq

/-! ### Text -/

mutual

/-- The canonical text of a type. -/
def text : TypeRef → String
  | .primitive p => p.keyword
  | .named name [] => name
  | .named name (a :: as) => name ++ "<" ++ a.text ++ textBehind as ++ ">"
  | .array element => element.text ++ "[]"
  | .wildcard => "?"

/-- The texts of the arguments behind the first, each with its comma. -/
def textBehind : List TypeRef → String
  | [] => ""
  | a :: as => "," ++ a.text ++ textBehind as

end

/-- The name of a type without its generic arguments. -/
def erasedName : TypeRef → String
  | .primitive p => p.keyword
  | .named name _ => name
  | .array element => element.erasedName ++ "[]"
  | .wildcard => "?"

/-- The generic arguments of a class type; other types have none. -/
def arguments : TypeRef → List TypeRef
  | .named _ arguments => arguments
  | _ => []

/-- Whether a type stands for "no payload": the keyword `void` or its class. -/
def isVoid : TypeRef → Bool
  | .primitive .void => true
  | .named name _ => name == "java.lang.Void" || name == "Void"
  | _ => false

end TypeRef

end HandlerDocs
