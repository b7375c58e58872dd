import HandlerDocs.Json.Reader
import HandlerDocs.Snapshot.ToJson

/-!
# Printing JSON

A JSON value is printed without spaces between its parts. In strings, quotes, backslashes and
control characters are escaped, and all other characters stand for themselves. A plain value, which
is a whole one without numbers, is read back from its text.

The reader keeps to a bound, which every opening bracket and every item counts down. Reading back is
therefore stated with a bound that twice the length of the text stays within, and with an arbitrary
text behind the value (`Tree.ReadsBack`); the induction is on the value, and inside of it on the
items or entries that are left.

* `readString_spelled` — strings are read back.
* `readText_print` — plain values are read back.
-/

namespace HandlerDocs.Json

/-! ### Printing -/

/-- The spelling of a character in a string. -/
def escaped (c : Char) : List Char :=
  match c with
  | '"' => ['\\', '"']
  | '\\' => ['\\', '\\']
  | '\x08' => ['\\', 'b']
  | '\x0c' => ['\\', 'f']
  | '\n' => ['\\', 'n']
  | '\r' => ['\\', 'r']
  | '\t' => ['\\', 't']
  | c =>
    if c.toNat < 0x20 then
      ['\\', 'u', '0', '0', Nat.digitChar (c.toNat / 16), Nat.digitChar (c.toNat % 16)]
    else [c]

/-- A string with its quotes. -/
def spelled (s : String) : List Char :=
  '"' :: (s.toList.flatMap escaped ++ ['"'])

namespace Tree

mutual

/-- The text of a value, without spaces between its parts. -/
def chars : Tree → List Char
  | null => ['n', 'u', 'l', 'l']
  | truth true => ['t', 'r', 'u', 'e']
  | truth false => ['f', 'a', 'l', 's', 'e']
  | integer n => (toString n).toList
  | real decimal => decimal.toList
  | text s => spelled s
  | array [] _ => ['[', ']']
  | array (item :: items) _ => '[' :: (item.chars ++ (itemsBehind items ++ [']']))
  | object [] _ => ['\x7b', '\x7d']
  | object ((key, value) :: entries) _ =>
    '\x7b' :: (key.chars ++ ':' :: (value.chars ++ (entriesBehind entries ++ ['\x7d'])))
  | unreadable | broken => []

/-- The text of the items behind the first one. -/
def itemsBehind : List Tree → List Char
  | [] => []
  | item :: items => ',' :: (item.chars ++ itemsBehind items)

/-- The text of the entries behind the first one. -/
def entriesBehind : List (Tree × Tree) → List Char
  | [] => []
  | (key, value) :: entries => ',' :: (key.chars ++ ':' :: (value.chars ++ entriesBehind entries))

end

/-- The text of a value. -/
def print (v : Tree) : String :=
  String.ofList v.chars

/-- The entries of an object whose keys are texts. -/
def entriesOf (pairs : List (String × Tree)) : List (Tree × Tree) :=
  pairs.map fun pair => (text pair.1, pair.2)

@[simp]
theorem entriesOf_nil : entriesOf [] = [] :=
  rfl

@[simp]
theorem entriesOf_cons (pair : String × Tree) (pairs : List (String × Tree)) :
    entriesOf (pair :: pairs) = (text pair.1, pair.2) :: entriesOf pairs :=
  rfl

theorem ofPairs_eq (pairs : List (String × Tree)) : ofPairs pairs = object (entriesOf pairs) true :=
  rfl

/-- The values without numbers whose ends are reached and whose keys are texts. -/
inductive IsPlain : Tree → Prop
  | null : IsPlain null
  | truth (b : Bool) : IsPlain (truth b)
  | text (s : String) : IsPlain (text s)
  | array {items : List Tree} : (∀ item ∈ items, IsPlain item) → IsPlain (array items true)
  | object {pairs : List (String × Tree)} :
    (∀ pair ∈ pairs, IsPlain pair.2) → IsPlain (ofPairs pairs)

end Tree

/-! ### Strings -/

/-- Below the space, two hexadecimal digits spell a code. -/
private theorem codeUnit?_digitChar : ∀ n < 0x20,
    codeUnit? ['0', '0', Nat.digitChar (n / 16), Nat.digitChar (n % 16)] = some n := by
  decide

/-- The spelling of a character is read as its code. -/
theorem readCodes?_escaped (c : Char) (s : List Char) :
    readCodes? (escaped c ++ s) = cons? (some c.toNat) (readCodes? s) := by
  unfold escaped
  split
  -- The characters that a letter stands for.
  iterate 7 rfl
  next hquote hbackslash _ _ _ _ _ =>
  split
  · next hcontrol =>
    rw [← codeUnit?_digitChar c.toNat hcontrol]
    rfl
  · next hcontrol =>
    rw [List.singleton_append, readCodes?]
    · exact if_neg hcontrol
    · exact hquote
    · exact fun _ _ _ _ _ h _ => hbackslash h
    · exact fun _ _ h _ => hbackslash h

/-- The spelling of characters up to the closing quote is read as their codes. -/
theorem readCodes?_spelled (cs rest : List Char) :
    readCodes? (cs.flatMap escaped ++ '"' :: rest) = some (cs.map Char.toNat, rest) := by
  induction cs with
  | nil => rfl
  | cons c cs ih =>
    rw [List.flatMap_cons, List.append_assoc, readCodes?_escaped, ih]
    rfl

/-- The code of a character is no surrogate. -/
private theorem not_isSurrogate (c : Char) :
    isHighSurrogate c.toNat = false ∧ isLowSurrogate c.toNat = false := by
  have hvalid : c.toNat < 0xD800 ∨ 0xDFFF < c.toNat ∧ c.toNat < 0x110000 := c.valid
  simp only [isHighSurrogate, isLowSurrogate, Bool.and_eq_false_iff, decide_eq_false_iff_not]
  omega

/-- Codes of characters stand for those characters. -/
theorem chars?_map_toNat (cs : List Char) : chars? (cs.map Char.toNat) = some cs := by
  induction cs with
  | nil => rfl
  | cons c cs ih =>
    obtain ⟨hhigh, hlow⟩ := not_isSurrogate c
    cases cs with
    | nil => simp [chars?, hhigh, hlow, Char.ofNat_toNat]
    | cons d cs =>
      rw [List.map_cons] at ih
      simp [chars?, hhigh, hlow, ih, Char.ofNat_toNat]

/-- A string is read back behind its opening quote. -/
theorem readString_spelled (s : String) (rest : List Char) :
    readString (s.toList.flatMap escaped ++ '"' :: rest) = (.text s, some rest) := by
  rw [readString, readCodes?_spelled]
  simp only [chars?_map_toNat, String.ofList_toList]

/-! ### Values -/

namespace Tree

/-- What it takes to read a value back from its text, whatever may follow it. -/
def ReadsBack (v : Tree) : Prop :=
  ∀ (bound : Nat) (rest : List Char), 2 * v.chars.length ≤ bound →
    readValueWithin bound (v.chars ++ rest) = (v, some rest)

/-- The text of a plain value starts with no space, and not with the end of an array either. -/
theorem IsPlain.exists_chars {v : Tree} (h : v.IsPlain) :
    ∃ c s, v.chars = c :: s ∧ isSpace c = false ∧ c ≠ ']' := by
  cases h with
  | null => exact ⟨_, _, rfl, by decide, by decide⟩
  | truth b => cases b <;> exact ⟨_, _, rfl, by decide, by decide⟩
  | text s => exact ⟨_, _, rfl, by decide, by decide⟩
  | @array items _ => cases items <;> exact ⟨_, _, rfl, by decide, by decide⟩
  | @object pairs _ => cases pairs <;> exact ⟨_, _, rfl, by decide, by decide⟩

theorem IsPlain.dropSpace_chars {v : Tree} (h : v.IsPlain) (rest : List Char) :
    dropSpace (v.chars ++ rest) = v.chars ++ rest := by
  obtain ⟨c, s, heq, hspace, -⟩ := h.exists_chars
  rw [heq, List.cons_append, dropSpace, List.dropWhile_cons_of_neg (by simp [hspace])]

/-- How an array goes on behind the `done` items, which are in reverse. -/
def continueItems (bound : Nat) (done : List Tree) (rest : List Char) : Step :=
  match dropSpace rest with
  | ']' :: rest => (array done.reverse true, some rest)
  | ',' :: rest => readItemsWithin bound done (dropSpace rest)
  | _ => (array done.reverse false, none)

/-- The first item of a text is read, and then the array goes on. -/
theorem readItemsWithin_step {v : Tree} (hplain : v.IsPlain) (hback : v.ReadsBack) {bound : Nat}
    (done : List Tree) (rest : List Char) (hbound : 2 * v.chars.length ≤ bound) :
    readItemsWithin (bound + 1) done (v.chars ++ rest) = continueItems bound (v :: done) rest := by
  have hread := hback bound rest hbound
  obtain ⟨c, s, heq, -, hne⟩ := hplain.exists_chars
  rw [heq, List.cons_append] at hread ⊢
  rw [readItemsWithin, hread]
  · rfl
  · exact fun _ _ h => hne (List.cons.inj h).1

/-- Printed items are read up to the end of their array. -/
theorem readItemsWithin_items {items : List Tree} (hplain : ∀ v ∈ items, v.IsPlain)
    (hback : ∀ v ∈ items, v.ReadsBack) {v : Tree} (hplainFirst : v.IsPlain)
    (hbackFirst : v.ReadsBack) {bound : Nat} (done : List Tree) (rest : List Char)
    (hbound : 2 * (v.chars.length + (itemsBehind items).length) < bound) :
    readItemsWithin bound done (v.chars ++ (itemsBehind items ++ ']' :: rest)) =
      (.array (done.reverse ++ v :: items) true, some rest) := by
  induction items generalizing v bound done with
  | nil =>
    obtain ⟨bound, rfl⟩ := Nat.exists_eq_add_one.mpr (Nat.zero_lt_of_lt hbound)
    rw [readItemsWithin_step hplainFirst hbackFirst done _ (by omega), ← List.reverse_cons]
    rfl
  | cons w items ih =>
    obtain ⟨bound, rfl⟩ := Nat.exists_eq_add_one.mpr (Nat.zero_lt_of_lt hbound)
    rw [List.forall_mem_cons] at hplain hback
    have hlength : (itemsBehind (w :: items)).length =
        w.chars.length + (itemsBehind items).length + 1 := by
      simp [itemsBehind]
    have htext : itemsBehind (w :: items) ++ ']' :: rest =
        ',' :: (w.chars ++ (itemsBehind items ++ ']' :: rest)) := by
      simp [itemsBehind]
    have hbound' : 2 * (w.chars.length + (itemsBehind items).length) < bound := by
      omega
    have hmore := ih hplain.2 hback.2 hplain.1 hback.1 (v :: done) hbound'
    rw [readItemsWithin_step hplainFirst hbackFirst done _ (by omega), htext]
    calc continueItems bound (v :: done) (',' :: (w.chars ++ (itemsBehind items ++ ']' :: rest)))
      _ = readItemsWithin bound (v :: done)
          (dropSpace (w.chars ++ (itemsBehind items ++ ']' :: rest))) := rfl
      _ = (.array (done.reverse ++ v :: w :: items) true, some rest) := by
        rw [hplain.1.dropSpace_chars, hmore, List.reverse_cons, List.append_assoc,
          List.singleton_append]

/-- How an object goes on behind the `done` entries, which are in reverse. -/
def continueEntries (bound : Nat) (done : List (Tree × Tree)) (rest : List Char) : Step :=
  match dropSpace rest with
  | '\x7d' :: rest => (object done.reverse true, some rest)
  | ',' :: rest => readEntriesWithin bound done (dropSpace rest)
  | _ => (object done.reverse false, none)

/-- The first entry of a text is read, and then the object goes on. -/
theorem readEntriesWithin_step (key : String) {v : Tree} (hback : v.ReadsBack) {bound : Nat}
    (done : List (Tree × Tree)) (rest : List Char) (hbound : 2 * v.chars.length ≤ bound) :
    readEntriesWithin (bound + 1) done (spelled key ++ ':' :: (v.chars ++ rest)) =
      continueEntries bound ((text key, v) :: done) rest := by
  have htext : spelled key ++ ':' :: (v.chars ++ rest) =
      '"' :: (key.toList.flatMap escaped ++ '"' :: ':' :: (v.chars ++ rest)) := by
    simp [spelled]
  have hkey : readString (key.toList.flatMap escaped ++ '"' :: ':' :: (v.chars ++ rest)) =
      (.text key, some (':' :: (v.chars ++ rest))) := readString_spelled key _
  have hcolon : dropSpace (':' :: (v.chars ++ rest)) = ':' :: (v.chars ++ rest) := rfl
  have hread := hback bound rest hbound
  rw [htext, readEntriesWithin, hkey]
  simp only [hcolon, hread]
  rfl

/-- Printed entries are read up to the end of their object. -/
theorem readEntriesWithin_pairs {pairs : List (String × Tree)}
    (hback : ∀ pair ∈ pairs, pair.2.ReadsBack) (key : String) {v : Tree}
    (hbackFirst : v.ReadsBack) {bound : Nat} (done : List (Tree × Tree)) (rest : List Char)
    (hbound : 2 * (v.chars.length + (entriesBehind (entriesOf pairs)).length) < bound) :
    readEntriesWithin bound done (spelled key ++ ':' :: (v.chars ++
        (entriesBehind (entriesOf pairs) ++ '\x7d' :: rest))) =
      (.object (done.reverse ++ (text key, v) :: entriesOf pairs) true, some rest) := by
  induction pairs generalizing key v bound done with
  | nil =>
    obtain ⟨bound, rfl⟩ := Nat.exists_eq_add_one.mpr (Nat.zero_lt_of_lt hbound)
    rw [readEntriesWithin_step key hbackFirst done _ (by omega), entriesOf_nil,
      ← List.reverse_cons]
    rfl
  | cons pair pairs ih =>
    obtain ⟨bound, rfl⟩ := Nat.exists_eq_add_one.mpr (Nat.zero_lt_of_lt hbound)
    rw [List.forall_mem_cons] at hback
    rw [entriesOf_cons] at hbound ⊢
    generalize entriesOf pairs = entries at *
    have hlength : (entriesBehind ((text pair.1, pair.2) :: entries)).length =
        (spelled pair.1).length + pair.2.chars.length + (entriesBehind entries).length + 2 := by
      simp [entriesBehind, chars]
      omega
    have htext : entriesBehind ((text pair.1, pair.2) :: entries) ++ '\x7d' :: rest =
        ',' :: (spelled pair.1 ++ ':' :: (pair.2.chars ++
          (entriesBehind entries ++ '\x7d' :: rest))) := by
      simp [entriesBehind, chars]
    have hbound' : 2 * (pair.2.chars.length + (entriesBehind entries).length) < bound := by
      omega
    have hmore := ih hback.2 pair.1 hback.1 ((text key, v) :: done) hbound'
    rw [readEntriesWithin_step key hbackFirst done _ (by omega), htext]
    calc continueEntries bound ((text key, v) :: done) (',' :: (spelled pair.1 ++ ':' ::
          (pair.2.chars ++ (entriesBehind entries ++ '\x7d' :: rest))))
      _ = readEntriesWithin bound ((text key, v) :: done) (spelled pair.1 ++ ':' ::
          (pair.2.chars ++ (entriesBehind entries ++ '\x7d' :: rest))) := rfl
      _ = (.object (done.reverse ++ (text key, v) :: (text pair.1, pair.2) :: entries) true,
          some rest) := by
        rw [hmore, List.reverse_cons, List.append_assoc, List.singleton_append]

theorem ReadsBack.array {items : List Tree} (hplain : ∀ v ∈ items, v.IsPlain)
    (hback : ∀ v ∈ items, v.ReadsBack) : (array items true).ReadsBack := by
  intro bound rest hbound
  cases items with
  | nil =>
    obtain ⟨bound, rfl⟩ := Nat.exists_eq_add_of_le' (Nat.le_trans (by decide) hbound : 1 ≤ bound)
    cases bound <;> rfl
  | cons v items =>
    rw [List.forall_mem_cons] at hplain hback
    have hlength : (Tree.array (v :: items) true).chars.length =
        v.chars.length + (itemsBehind items).length + 2 := by
      simp [chars]
      omega
    have htext : (Tree.array (v :: items) true).chars ++ rest =
        '[' :: (v.chars ++ (itemsBehind items ++ ']' :: rest)) := by
      simp [chars]
    obtain ⟨bound, rfl⟩ := Nat.exists_eq_add_one.mpr (by omega : 0 < bound)
    have hitems := readItemsWithin_items hplain.2 hback.2 hplain.1 hback.1 [] rest
      (by omega : 2 * (v.chars.length + (itemsBehind items).length) < bound)
    calc readValueWithin (bound + 1) ((Tree.array (v :: items) true).chars ++ rest)
      _ = readItemsWithin bound []
          (dropSpace (v.chars ++ (itemsBehind items ++ ']' :: rest))) := by
        rw [htext]
        rfl
      _ = (.array (v :: items) true, some rest) := by
        rw [hplain.1.dropSpace_chars, hitems]
        rfl

theorem ReadsBack.object {pairs : List (String × Tree)}
    (hback : ∀ pair ∈ pairs, pair.2.ReadsBack) : (ofPairs pairs).ReadsBack := by
  intro bound rest hbound
  cases pairs with
  | nil =>
    obtain ⟨bound, rfl⟩ := Nat.exists_eq_add_of_le' (Nat.le_trans (by decide) hbound : 1 ≤ bound)
    cases bound <;> rfl
  | cons pair pairs =>
    rw [List.forall_mem_cons] at hback
    have hlength : (ofPairs (pair :: pairs)).chars.length =
        (spelled pair.1).length + pair.2.chars.length +
          (entriesBehind (entriesOf pairs)).length + 3 := by
      simp [ofPairs_eq, chars]
      omega
    have htext : (ofPairs (pair :: pairs)).chars ++ rest =
        '\x7b' :: (spelled pair.1 ++ ':' :: (pair.2.chars ++
          (entriesBehind (entriesOf pairs) ++ '\x7d' :: rest))) := by
      simp [ofPairs_eq, chars]
    obtain ⟨bound, rfl⟩ := Nat.exists_eq_add_one.mpr (by omega : 0 < bound)
    have hpairs := readEntriesWithin_pairs hback.2 pair.1 hback.1 [] rest
      (by omega : 2 * (pair.2.chars.length + (entriesBehind (entriesOf pairs)).length) < bound)
    calc readValueWithin (bound + 1) ((ofPairs (pair :: pairs)).chars ++ rest)
      _ = readEntriesWithin bound [] (spelled pair.1 ++ ':' :: (pair.2.chars ++
          (entriesBehind (entriesOf pairs) ++ '\x7d' :: rest))) := by
        rw [htext]
        rfl
      _ = (ofPairs (pair :: pairs), some rest) := hpairs

/-- A plain value is read back from its text, whatever may follow it. -/
theorem readValueWithin_chars {v : Tree} (h : v.IsPlain) : v.ReadsBack := by
  induction h with
  | null =>
    intro bound rest _
    cases bound <;> rfl
  | truth b =>
    intro bound rest _
    cases b <;> cases bound <;> rfl
  | text s =>
    intro bound rest _
    have htext : (text s).chars ++ rest = '"' :: (s.toList.flatMap escaped ++ '"' :: rest) := by
      simp [chars, spelled]
    calc readValueWithin bound ((text s).chars ++ rest)
      _ = readString (s.toList.flatMap escaped ++ '"' :: rest) := by
        rw [htext]
        cases bound <;> rfl
      _ = (text s, some rest) := readString_spelled s rest
  | array hplain ih => exact .array hplain ih
  | object _ ih => exact .object ih

end Tree

/-- A plain value is read back from its printed text, to the end. -/
theorem readText_print {v : Tree} (h : v.IsPlain) : readText v.print = (v, true) := by
  have hread : readValue v.chars = (v, some []) := by
    have hback := Tree.readValueWithin_chars h (2 * (v.chars.length + 1)) [] (by omega)
    rwa [List.append_nil] at hback
  rw [readText, Tree.print, String.toList_ofList, hread]
  rfl

example : (Tree.ofPairs [("a\n", .list .truth [true, false]), ("b", .null)]).print =
    "\x7b\"a\\n\":[true,false],\"b\":null\x7d" := by
  decide +kernel

end HandlerDocs.Json
