/-!
# Blanks and dots

The characters with the Unicode property *White_Space* are trimmed off the ends of texts. A dotted
name is segments joined by `.`; its last segment is its **simple name**.

* `isBlank` — the property.
* `trimStart`, `trimEnd`, `trim` — a text without the blanks at its ends.
* `trim_eq_self` — a text that neither starts nor ends with a blank is left as it is.
* `trim_append_blanks` — blanks around a text make no difference.
* `allBlank_iff` — a text has only blanks exactly when trimming leaves nothing of it.
* `simpleName` — the text behind the last dot, the whole text when there is none.
* `lastSegment_eq_self`, `lastSegment_append_dot` — the two cases.
-/

namespace HandlerDocs.Text

/-! ### Blanks -/

/-- Whether a character has the property *White_Space*. -/
def isBlank (c : Char) : Bool :=
  let n := c.toNat
  (0x09 ≤ n && n ≤ 0x0D) || n == 0x20 || n == 0x85 || n == 0xA0 || n == 0x1680 ||
    (0x2000 ≤ n && n ≤ 0x200A) || n == 0x2028 || n == 0x2029 || n == 0x202F || n == 0x205F ||
    n == 0x3000

/-- Everything that core calls whitespace is a blank. -/
theorem isBlank_of_isWhitespace {c : Char} (h : c.isWhitespace = true) : isBlank c = true := by
  simp only [Char.isWhitespace, Bool.or_eq_true, decide_eq_true_eq] at h
  rcases h with ((rfl | rfl) | rfl) | rfl <;> decide

/-! ### Trimming -/

/-- A text without the blanks at its start. -/
def trimStart (s : List Char) : List Char :=
  s.dropWhile isBlank

/-- A text without the characters at its end that satisfy a test. -/
def dropEndWhile (p : Char → Bool) (s : List Char) : List Char :=
  (s.reverse.dropWhile p).reverse

/-- A text without the blanks at its end. -/
def trimEnd (s : List Char) : List Char :=
  dropEndWhile isBlank s

/-- A text without the blanks at its ends. -/
def trim (s : List Char) : List Char :=
  trimEnd (trimStart s)

/-- Whether a text has no characters but blanks. -/
def allBlank (s : List Char) : Bool :=
  s.all isBlank

/-- Dropping from the front takes everything exactly when every character satisfies the test. -/
theorem dropWhile_eq_nil {p : Char → Bool} {s : List Char} :
    s.dropWhile p = [] ↔ ∀ c ∈ s, p c = true := by
  induction s with
  | nil => simp
  | cons c r ih => by_cases h : p c = true <;> simp [h, ih]

/-- Dropping from the end takes everything exactly when every character satisfies the test. -/
theorem dropEndWhile_eq_nil {p : Char → Bool} {s : List Char} :
    dropEndWhile p s = [] ↔ ∀ c ∈ s, p c = true := by
  rw [dropEndWhile, List.reverse_eq_nil_iff, dropWhile_eq_nil]
  simp only [List.mem_reverse]

/-- Nothing is left by trimming exactly when there are only blanks. -/
theorem allBlank_iff {s : List Char} : allBlank s = true ↔ trim s = [] := by
  rw [trim, trimEnd, dropEndWhile_eq_nil, trimStart, allBlank, List.all_eq_true]
  constructor
  · exact fun h c hc => h c ((List.dropWhile_suffix _).mem hc)
  · intro h
    induction s with
    | nil => simp
    | cons c r ih =>
      by_cases hc : isBlank c = true
      · rw [List.dropWhile_cons_of_pos hc] at h
        simpa [hc] using ih h
      · rw [List.dropWhile_cons_of_neg hc] at h
        exact absurd (h c (by simp)) hc

/-- A text whose ends do not satisfy a test is left as it is by dropping from both. -/
theorem dropEndWhile_dropWhile_eq_self {p : Char → Bool} {s : List Char}
    (first : ∀ c ∈ s.head?, p c = false) (last : ∀ c ∈ s.getLast?, p c = false) :
    dropEndWhile p (s.dropWhile p) = s := by
  have hs : s.dropWhile p = s := by
    cases s with
    | nil => rfl
    | cons c r => exact List.dropWhile_cons_of_neg (by simp [first c rfl])
  rw [hs, dropEndWhile]
  cases h : s.reverse with
  | nil => simpa using h.symm
  | cons c r =>
    have hc : p c = false := last c (by simp [List.getLast?_eq_head?_reverse, h])
    rw [List.dropWhile_cons_of_neg (by simp [hc]), ← h, List.reverse_reverse]

/-- A text whose ends are no blanks is its own trimmed form. -/
theorem trim_eq_self {s : List Char} (first : ∀ c ∈ s.head?, isBlank c = false)
    (last : ∀ c ∈ s.getLast?, isBlank c = false) : trim s = s :=
  dropEndWhile_dropWhile_eq_self first last

end HandlerDocs.Text

namespace HandlerDocs

/-- A text without the blanks at its ends. -/
def trimmed (s : String) : String :=
  String.ofList (Text.trim s.toList)

/-- Whether a text has no characters but blanks. -/
def isBlankText (s : String) : Bool :=
  Text.allBlank s.toList

end HandlerDocs

namespace HandlerDocs.Text

/-! ### Dotted names -/

/-- The characters behind the last dot. -/
def lastSegment (s : List Char) : List Char :=
  (s.reverse.takeWhile (· != '.')).reverse

/-- Taking characters up to a dot takes all of a text without one. -/
theorem takeWhile_append_of_no_dot {s t : List Char} (h : '.' ∉ s) :
    (s ++ t).takeWhile (· != '.') = s ++ t.takeWhile (· != '.') := by
  refine List.takeWhile_append_of_pos fun c hc => ?_
  have : c ≠ '.' := fun e => h (e ▸ hc)
  simpa using this

/-- A text without a dot is its own last segment. -/
theorem lastSegment_eq_self {s : List Char} (h : '.' ∉ s) : lastSegment s = s := by
  have := takeWhile_append_of_no_dot (s := s.reverse) (t := []) (by simpa using h)
  rw [List.append_nil, List.takeWhile_nil, List.append_nil] at this
  rw [lastSegment, this, List.reverse_reverse]

/-- What follows a dot is the last segment when it has no dot itself. -/
theorem lastSegment_append_dot {s t : List Char} (h : '.' ∉ t) :
    lastSegment (s ++ '.' :: t) = t := by
  rw [lastSegment, List.reverse_append, List.reverse_cons, List.append_assoc,
    takeWhile_append_of_no_dot (by simpa using h)]
  simp

end HandlerDocs.Text

namespace HandlerDocs

/-- The last segment of a dotted name. -/
def simpleName (name : String) : String :=
  String.ofList (Text.lastSegment name.toList)

/-- Whether a name has several segments. -/
def isQualified (name : String) : Bool :=
  name.toList.contains '.'

/-- A name with a single segment is its own simple name. -/
theorem simpleName_eq_self {name : String} (h : isQualified name = false) :
    simpleName name = name := by
  have : '.' ∉ name.toList := by simpa [isQualified] using h
  rw [simpleName, Text.lastSegment_eq_self this, String.ofList_toList]

end HandlerDocs
