import HandlerDocs.TypeRef.Parser

/-!
# Names in type text

A class name in a type text is one or more identifiers joined by dots (`IsDottedName`). Behind its
first character such a name goes on character by character, with parts of identifiers and with dots
that stand in front of the start of another identifier (`NameRest`), which is how it is read.

* `isDottedName_iff` — both descriptions fit the same names.
* `readNameRest_append` — a name is read up to the first character that cannot go on with it.
* `nameRest_of_readNameRest`, `eq_append_of_readNameRest` — nothing else is read as a name, and
  nothing but the name is taken off the text.
* `isBlank_of_isIdentifierPart` — no identifier goes on with a blank.
-/

namespace HandlerDocs

/-- Readings in a row give a result only when the first one gives one to go on with. -/
theorem exists_of_bind_eq_ok {ε α β : Type} {reading : Except ε α} {next : α → Except ε β} {b : β}
    (h : (reading >>= next) = .ok b) : ∃ a, reading = .ok a ∧ next a = .ok b := by
  cases reading with
  | error e => exact absurd h (by simp [bind, Except.bind])
  | ok a => exact ⟨a, rfl, h⟩

namespace TypeRef

open Text

/-! ### Characters -/

/-- The code points of blanks. -/
private def blankCodes : List Nat :=
  List.range' 0x09 5 ++ [0x20, 0x85, 0xA0, 0x1680] ++ List.range' 0x2000 11 ++
    [0x2028, 0x2029, 0x202F, 0x205F, 0x3000]

private theorem toNat_mem_blankCodes {c : Char} (h : isBlank c = true) : c.toNat ∈ blankCodes := by
  simp only [isBlank, Bool.or_eq_true, Bool.and_eq_true, decide_eq_true_eq, beq_iff_eq] at h
  simp only [blankCodes, List.mem_append, List.mem_range'_1, List.mem_cons, List.not_mem_nil,
    or_false]
  omega

private theorem isIdentifierPart_eq_false_of_mem :
    ∀ n ∈ blankCodes, isIdentifierPart (Char.ofNat n) = false := by
  decide +kernel

/-- No identifier goes on with a blank. -/
theorem isBlank_of_isIdentifierPart {c : Char} (h : isIdentifierPart c = true) :
    isBlank c = false := by
  cases hblank : isBlank c with
  | false => rfl
  | true =>
    have hfalse := isIdentifierPart_eq_false_of_mem _ (toNat_mem_blankCodes hblank)
    rw [Char.ofNat_toNat, h] at hfalse
    exact Bool.noConfusion hfalse

/-- No identifier starts with a blank. -/
theorem isBlank_of_isIdentifierStart {c : Char} (h : isIdentifierStart c = true) :
    isBlank c = false :=
  isBlank_of_isIdentifierPart (isIdentifierPart_of_start h)

/-! ### Dotted names -/

/-- A start of an identifier with parts of an identifier behind it. -/
def IsIdentifier (word : List Char) : Prop :=
  ∃ c rest, word = c :: rest ∧ isIdentifierStart c = true ∧
    ∀ d ∈ rest, isIdentifierPart d = true

/-- One or more identifiers joined by dots. -/
def IsDottedName (name : String) : Prop :=
  ∃ words : List (List Char), words ≠ [] ∧ (∀ word ∈ words, IsIdentifier word) ∧
    name.toList = ['.'].intercalate words

/-- What may follow the first character of a dotted name. -/
inductive NameRest : List Char → Prop
  | nil : NameRest []
  | part {c : Char} {rest : List Char} :
    isIdentifierPart c = true → NameRest rest → NameRest (c :: rest)
  | dot {c : Char} {rest : List Char} :
    isIdentifierStart c = true → NameRest rest → NameRest ('.' :: c :: rest)

/-- What follows a word of a dotted name completes it to words joined by dots. -/
private theorem exists_words_of_nameRest {rest : List Char} (h : NameRest rest) :
    ∀ word, IsIdentifier word → ∃ words : List (List Char), words ≠ [] ∧
      (∀ word ∈ words, IsIdentifier word) ∧ word ++ rest = ['.'].intercalate words := by
  -- The word at hand grows with every part; a dot finishes it and starts the next one.
  induction h with
  | nil =>
    intro word hword
    exact ⟨[word], by simp, by simpa using hword, by simp⟩
  | @part c rest hc _ ih =>
    rintro word ⟨first, more, rfl, hfirst, hmore⟩
    obtain ⟨words, hne, hwords, heq⟩ := ih (first :: (more ++ [c]))
      ⟨first, more ++ [c], rfl, hfirst, by simpa [or_imp, forall_and] using ⟨hmore, hc⟩⟩
    exact ⟨words, hne, hwords, by simpa using heq⟩
  | @dot c rest hc _ ih =>
    intro word hword
    obtain ⟨words, hne, hwords, heq⟩ := ih [c] ⟨c, [], rfl, hc, by simp⟩
    refine ⟨word :: words, by simp, by simpa using ⟨hword, hwords⟩, ?_⟩
    rw [List.intercalate_cons_of_ne_nil hne, ← heq]
    simp

/-- Words joined by dots go on behind their first character as a name does. -/
private theorem nameRest_of_words (words : List (List Char))
    (hwords : ∀ word ∈ words, IsIdentifier word) (hne : words ≠ []) :
    ∃ c rest, ['.'].intercalate words = c :: rest ∧ isIdentifierStart c = true ∧ NameRest rest := by
  have parts {more rest : List Char} (hmore : ∀ d ∈ more, isIdentifierPart d = true)
      (hrest : NameRest rest) : NameRest (more ++ rest) := by
    induction more with
    | nil => exact hrest
    | cons d more ih =>
      rw [List.forall_mem_cons] at hmore
      exact .part hmore.1 (ih hmore.2)
  induction words with
  | nil => exact absurd rfl hne
  | cons word words ih =>
    rw [List.forall_mem_cons] at hwords
    obtain ⟨c, more, rfl, hc, hmore⟩ := hwords.1
    by_cases hlast : words = []
    · subst hlast
      exact ⟨c, more ++ [], by simp, hc, parts hmore .nil⟩
    · obtain ⟨c', rest, heq, hc', hrest⟩ := ih hwords.2 hlast
      refine ⟨c, more ++ '.' :: c' :: rest, ?_, hc, parts hmore (.dot hc' hrest)⟩
      rw [List.intercalate_cons_of_ne_nil hlast, heq]
      simp

/-- A dotted name is a start of an identifier with the rest of a name behind it. -/
theorem isDottedName_iff {name : String} :
    IsDottedName name ↔
      ∃ c rest, name.toList = c :: rest ∧ isIdentifierStart c = true ∧ NameRest rest := by
  constructor
  · rintro ⟨words, hne, hwords, heq⟩
    rw [heq]
    exact nameRest_of_words words hwords hne
  · rintro ⟨c, rest, heq, hc, hrest⟩
    obtain ⟨words, hne, hwords, hjoin⟩ :=
      exists_words_of_nameRest hrest [c] ⟨c, [], rfl, hc, by simp⟩
    exact ⟨words, hne, hwords, heq.trans hjoin⟩

/-! ### Reading names -/

private theorem ne_dot {c : Char} (h : isIdentifierPart c = true) : c ≠ '.' := by
  rintro rfl
  exact absurd h (by decide)

/-- A text with which a name does not go on: it starts with no part of an identifier, and with a dot
only if that is the first of three. -/
def EndsName (s : List Char) : Prop :=
  (∀ c ∈ s.head?, isIdentifierPart c = false) ∧ ∀ r, s = '.' :: r → ['.', '.'] <+: r

/-- A name is read up to the first character that cannot go on with it. -/
theorem readNameRest_append {more : List Char} (hmore : NameRest more) {rest : List Char}
    (hrest : EndsName rest) : readNameRest (more ++ rest) = .ok (more, rest) := by
  induction hmore with
  | nil =>
    cases rest with
    | nil => rfl
    | cons c rest =>
      obtain ⟨hpart, hdots⟩ := hrest
      by_cases hdot : c = '.'
      · subst hdot
        obtain ⟨rest, rfl⟩ := hdots rest rfl
        rfl
      · simp [readNameRest, hpart c rfl, hdot]
  | @part c more hc _ ih =>
    simp [readNameRest, hc, ne_dot hc, ih, Functor.map, Except.map]
  | @dot c more hc _ ih =>
    simp [readNameRest, hc, ne_dot (isIdentifierPart_of_start hc), ih, Functor.map, Except.map]

/-- What is read of a name and what is left make up the text, and no identifier goes on with what is
left. -/
theorem eq_append_of_readNameRest {s more rest : List Char}
    (h : readNameRest s = .ok (more, rest)) :
    s = more ++ rest ∧ ∀ c ∈ rest.head?, isIdentifierPart c = false := by
  fun_induction readNameRest s generalizing more rest with
  | case1 r =>
    cases h
    exact ⟨rfl, by simp; decide⟩
  | case2 c r _ hc ih | case5 c r _ _ _ hc ih =>
    obtain ⟨⟨more, rest⟩, hread, h⟩ := exists_of_bind_eq_ok h
    cases h
    obtain ⟨rfl, hrest⟩ := ih hread
    exact ⟨rfl, hrest⟩
  | case3 c r _ hc | case4 => cases h
  | case6 c r _ _ _ hc =>
    cases h
    exact ⟨rfl, by simpa using hc⟩
  | case7 =>
    cases h
    exact ⟨rfl, by simp⟩

/-- Only what may follow the first character of a dotted name is read behind it. -/
theorem nameRest_of_readNameRest {s more rest : List Char}
    (h : readNameRest s = .ok (more, rest)) : NameRest more := by
  fun_induction readNameRest s generalizing more rest with
  | case1 r | case7 =>
    cases h
    exact .nil
  | case2 c r _ hc ih =>
    obtain ⟨⟨more, rest⟩, hread, h⟩ := exists_of_bind_eq_ok h
    cases h
    exact .dot hc (ih hread)
  | case3 c r _ hc | case4 => cases h
  | case5 c r _ _ _ hc ih =>
    obtain ⟨⟨more, rest⟩, hread, h⟩ := exists_of_bind_eq_ok h
    cases h
    exact .part hc (ih hread)
  | case6 c r _ _ _ hc =>
    cases h
    exact .nil

end TypeRef

end HandlerDocs
