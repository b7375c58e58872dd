import HandlerDocs.Proofs.TypeRef.Names
import Mathlib.Tactic.TFAE

/-!
# Type text and back

The types that some text reads as are the `WellFormed` ones: their class names are dotted names, a
class with the name of a primitive type has arguments, and no array has wildcards in it. On these
types, reading undoes writing.

Reading back is by induction on the type, with an arbitrary text behind it. The marks of the arrays
around a type stand in that text as well (`brackets`), because the reader counts all of them
behind the innermost element. The other direction is by induction on the bound that the four
readers share (`ReadsWellFormed`).

* `readTypeWithin_text` — a written type is read back, whatever may follow it.
* `readsWellFormed` — whatever is read is well-formed.
* `parse_text_roundTrip` — the types that can be read, read back and compared by their texts.
-/

namespace HandlerDocs.TypeRef

open Text

/-! ### Well-formed types -/

/-- The types with dotted class names, with arguments for every class that has the name of a
primitive type, and without arrays of wildcards. -/
inductive WellFormed : TypeRef → Prop
  | primitive (p : Primitive) : WellFormed (.primitive p)
  | wildcard : WellFormed .wildcard
  | array {element : TypeRef} :
    element ≠ .wildcard → WellFormed element → WellFormed (.array element)
  | named {name : String} {arguments : List TypeRef} :
    IsDottedName name → (∀ p : Primitive, name = p.keyword → arguments ≠ []) →
      (∀ a ∈ arguments, WellFormed a) → WellFormed (.named name arguments)

/-- A keyword is a dotted name of one word. -/
private theorem isDottedName_keyword (p : Primitive) : IsDottedName p.keyword := by
  have hword : ∃ c rest, p.keyword.toList = c :: rest ∧ isIdentifierStart c = true ∧
      rest.all isIdentifierPart = true := by
    cases p <;> exact ⟨_, _, rfl, by decide, by decide⟩
  obtain ⟨c, rest, heq, hc, hrest⟩ := hword
  rw [List.all_eq_true] at hrest
  refine ⟨[p.keyword.toList], by simp, ?_, by simp⟩
  rw [List.forall_mem_singleton]
  exact ⟨c, rest, heq, hc, hrest⟩

/-- Around anything but a wildcard, layers of arrays are well-formed. -/
private theorem WellFormed.arrayed {element : TypeRef} (hne : element ≠ .wildcard)
    (helement : element.WellFormed) (layers : Nat) : (element.arrayed layers).WellFormed := by
  induction layers with
  | zero => exact helement
  | succ layers ih =>
    refine .array ?_ ih
    cases layers with
    | zero => exact hne
    | succ layers => simp [TypeRef.arrayed]

private theorem ofName_ne_wildcard (name : String) (arguments : List TypeRef) :
    ofName name arguments ≠ .wildcard := by
  unfold ofName
  split <;> simp

theorem ofName_keyword (p : Primitive) : ofName p.keyword [] = .primitive p := by
  simp [ofName]

theorem ofName_eq_named {name : String} {arguments : List TypeRef}
    (h : ∀ p : Primitive, name = p.keyword → arguments ≠ []) :
    ofName name arguments = .named name arguments := by
  unfold ofName
  split
  · next p hp => exact absurd rfl (h p (Primitive.ofKeyword?_eq_some_iff.mp hp))
  · rfl

private theorem WellFormed.ofName {name : String} (hname : IsDottedName name)
    {arguments : List TypeRef} (harguments : ∀ a ∈ arguments, a.WellFormed) :
    (ofName name arguments).WellFormed := by
  unfold TypeRef.ofName
  split
  · exact .primitive _
  · next hkeyword =>
    refine .named hname (fun p hp hnil => ?_) harguments
    exact hkeyword p hnil (Primitive.ofKeyword?_eq_some_iff.mpr hp)

/-! ### What stands behind a name -/

/-- A text that starts with a mark of a type text, if with anything. -/
def Stops (s : List Char) : Prop :=
  ∀ c ∈ s.head?, c = '<' ∨ c = '[' ∨ c = ',' ∨ c = '>'

/-- A text that starts with the end of an argument, if with anything. -/
def Closes (s : List Char) : Prop :=
  ∀ c ∈ s.head?, c = ',' ∨ c = '>'

theorem Closes.stops {s : List Char} (h : Closes s) : Stops s :=
  fun c hc => .inr (.inr (h c hc))

theorem Closes.head_ne {s : List Char} (h : Closes s) {c : Char} (hcomma : c ≠ ',')
    (hbracket : c ≠ '>') : s.head? ≠ some c :=
  fun hc => (h c hc).elim hcomma hbracket

private theorem Stops.not_isIdentifierPart {s : List Char} (h : Stops s) :
    ∀ c ∈ s.head?, isIdentifierPart c = false ∧ c ≠ '.' := by
  intro c hc
  rcases h c hc with rfl | rfl | rfl | rfl <;> decide

theorem Stops.endsName {s : List Char} (h : Stops s) : EndsName s :=
  ⟨fun c hc => (h.not_isIdentifierPart c hc).1, fun _ hr =>
    absurd rfl (h.not_isIdentifierPart '.' (by simp [hr])).2⟩

theorem Stops.takeWhile_eq_nil {s : List Char} (h : Stops s) :
    s.takeWhile isIdentifierPart = [] := by
  cases s with
  | nil => rfl
  | cons c s => simp [(h.not_isIdentifierPart c rfl).1]

private theorem Stops.trimStart_eq_self {s : List Char} (h : Stops s) : trimStart s = s := by
  cases s with
  | nil => rfl
  | cons c s =>
    have hblank : isBlank c = false := by
      rcases h c rfl with rfl | rfl | rfl | rfl <;> decide
    simp [trimStart, hblank]

/-- The marks of a number of array layers. -/
def brackets : Nat → List Char
  | 0 => []
  | layers + 1 => '[' :: ']' :: brackets layers

private theorem stops_brackets (layers : Nat) {rest : List Char} (hrest : Closes rest) :
    Stops (brackets layers ++ rest) ∧ (brackets layers ++ rest).head? ≠ some '<' := by
  cases layers with
  | zero => exact ⟨hrest.stops, hrest.head_ne (by decide) (by decide)⟩
  | succ layers => simp [brackets, Stops]

/-- The end of a bracket counts as one more layer. -/
theorem readDimensions_close {s r : List Char} {layers : Nat}
    (h : readDimensions false s = .ok (layers, r)) :
    readDimensions true (']' :: s) = .ok (layers + 1, r) :=
  calc readDimensions true (']' :: s)
    _ = readDimensions false s >>= fun p => .ok (p.1 + 1, p.2) := rfl
    _ = .ok (layers + 1, r) := by
      rw [h]
      rfl

private theorem readDimensions_brackets (layers : Nat) {rest : List Char} (hrest : Closes rest) :
    readDimensions false (brackets layers ++ rest) = .ok (layers, rest) := by
  induction layers with
  | zero =>
    cases rest with
    | nil => rfl
    | cons c rest => rcases hrest c rfl with rfl | rfl <;> rfl
  | succ layers ih => exact readDimensions_close ih

theorem arrayed_array (element : TypeRef) (layers : Nat) :
    (TypeRef.array element).arrayed layers = element.arrayed (layers + 1) := by
  induction layers with
  | zero => rfl
  | succ layers ih => rw [TypeRef.arrayed, ih, ← TypeRef.arrayed]

/-! ### Reading what was written -/

/-- At the start of an identifier, a name is read with what may follow it. -/
theorem readTypeWithin_start {c : Char} (hc : isIdentifierStart c = true) (bound : Nat)
    (s : List Char) :
    readTypeWithin (bound + 1) (c :: s) = (do
      let (more, r) ← readNameRest s
      let (arguments, r) ← readArgumentsWithin bound (trimStart r)
      let (layers, r) ← readDimensions false r
      return ((ofName (String.ofList (c :: more)) arguments).arrayed layers, r)) := by
  have htrim : trimStart (c :: s) = c :: s := by
    simp [trimStart, isBlank_of_isIdentifierStart hc]
  have hquestion : c ≠ '?' := by
    rintro rfl
    exact absurd hc (by decide)
  unfold readTypeWithin
  rw [htrim]
  simp [hc]

/-- A name is read together with the arguments and the array marks behind it. -/
theorem readTypeWithin_name {name : String} (hname : IsDottedName name) {bound layers : Nat}
    {s r rest : List Char} {arguments : List TypeRef} (hs : EndsName s)
    (harguments : readArgumentsWithin bound (trimStart s) = .ok (arguments, r))
    (hlayers : readDimensions false r = .ok (layers, rest)) :
    readTypeWithin (bound + 1) (name.toList ++ s) =
      .ok ((ofName name arguments).arrayed layers, rest) := by
  obtain ⟨c, more, heq, hc, hmore⟩ := isDottedName_iff.mp hname
  have hback : String.ofList (c :: more) = name := by
    rw [← heq, String.ofList_toList]
  rw [heq, List.cons_append, readTypeWithin_start hc, readNameRest_append hmore hs]
  simp only [bind, Except.bind, harguments, hlayers, hback]
  rfl

/-- Where an argument ends, neither `extends` nor `super` can be read, so a `?` has no bound. -/
theorem readWildcardWithin_of_closes {s : List Char} (hs : Closes s) (bound : Nat) :
    readWildcardWithin bound s = .ok (.wildcard, s) := by
  cases bound with
  | zero => rfl
  | succ bound => simp [readWildcardWithin, hs.stops.takeWhile_eq_nil]

/-- A `?` with nothing more to read behind it is a wildcard. -/
private theorem readTypeWithin_wildcard (bound : Nat) {rest : List Char} (hrest : Closes rest) :
    readTypeWithin (bound + 1) ('?' :: rest) = .ok (.wildcard, rest) := by
  have htrim : trimStart ('?' :: rest) = '?' :: rest := rfl
  unfold readTypeWithin
  rw [htrim]
  simp only [hrest.stops.trimStart_eq_self]
  exact readWildcardWithin_of_closes hrest bound

/-- Where no `<` stands, no arguments are read. -/
theorem readArgumentsWithin_of_ne {s : List Char} (h : s.head? ≠ some '<') (bound : Nat) :
    readArgumentsWithin bound s = .ok ([], s) := by
  unfold readArgumentsWithin
  split
  · exact absurd rfl h
  · rfl

/-- The text of a well-formed type starts with no blank, and not with a closing bracket either. -/
private theorem WellFormed.text_head {t : TypeRef} (ht : t.WellFormed) :
    ∃ c s, t.text.toList = c :: s ∧ isBlank c = false ∧ c ≠ '>' := by
  have ofDotted {name : String} (hname : IsDottedName name) (s : List Char) :
      ∃ c s', name.toList ++ s = c :: s' ∧ isBlank c = false ∧ c ≠ '>' := by
    obtain ⟨c, more, heq, hc, -⟩ := isDottedName_iff.mp hname
    refine ⟨c, more ++ s, by rw [heq, List.cons_append], isBlank_of_isIdentifierStart hc, ?_⟩
    rintro rfl
    exact absurd hc (by decide)
  induction ht with
  | primitive p => simpa [text] using ofDotted (isDottedName_keyword p) []
  | wildcard => exact ⟨'?', [], rfl, by decide, by decide⟩
  | array _ _ ih =>
    obtain ⟨c, s, heq, hc⟩ := ih
    exact ⟨c, s ++ ['[', ']'], by simp [text, heq], hc⟩
  | @named name arguments hname _ _ _ =>
    cases arguments with
    | nil => simpa [text] using ofDotted hname []
    | cons a as =>
      simpa [text] using
        ofDotted hname ('<' :: (a.text.toList ++ ((textBehind as).toList ++ ['>'])))

/-- What it takes to read a type back from its text: the array marks behind the text count as
layers of the type, except behind a wildcard, which takes none. -/
def ReadsBack (t : TypeRef) : Prop :=
  ∀ (layers : Nat) {bound : Nat} {rest : List Char}, (t = .wildcard → layers = 0) → Closes rest →
    t.text.toList.length < bound →
      readTypeWithin bound (t.text.toList ++ (brackets layers ++ rest)) =
        .ok (t.arrayed layers, rest)

/-- An argument is followed by a comma or by the closing bracket. -/
private theorem closes_textBehind (arguments : List TypeRef) (rest : List Char) :
    Closes ((textBehind arguments).toList ++ '>' :: rest) := by
  cases arguments <;> simp [textBehind, Closes]

/-- The arguments behind the first one are read back up to the closing bracket. -/
private theorem readMoreArgumentsWithin_textBehind {arguments : List TypeRef}
    (harguments : ∀ a ∈ arguments, ReadsBack a) {bound : Nat} (rest : List Char)
    (hbound : (textBehind arguments).toList.length < bound) :
    readMoreArgumentsWithin bound ((textBehind arguments).toList ++ '>' :: rest) =
      .ok (arguments, rest) := by
  induction arguments generalizing bound with
  | nil =>
    obtain ⟨bound, rfl⟩ := Nat.exists_eq_add_one.mpr (Nat.zero_lt_of_lt hbound)
    simp [textBehind, readMoreArgumentsWithin]
  | cons a arguments ih =>
    obtain ⟨bound, rfl⟩ := Nat.exists_eq_add_one.mpr (Nat.zero_lt_of_lt hbound)
    rw [List.forall_mem_cons] at harguments
    have hcloses := closes_textBehind arguments rest
    have hlength : a.text.toList.length < bound ∧ (textBehind arguments).toList.length < bound := by
      simp [textBehind] at hbound ⊢
      omega
    have hfirst := harguments.1 0 (fun _ => rfl) hcloses hlength.1
    have hmore := ih harguments.2 hlength.2
    have htext : (textBehind (a :: arguments)).toList ++ '>' :: rest = ',' :: (a.text.toList ++
        (brackets 0 ++ ((textBehind arguments).toList ++ '>' :: rest))) := by
      simp [textBehind, brackets]
    rw [htext, readMoreArgumentsWithin, hfirst]
    simp only [bind, Except.bind, hcloses.stops.trimStart_eq_self, hmore]
    rfl

/-- Arguments between their brackets are read back. -/
private theorem readArgumentsWithin_cons {a : TypeRef} {arguments : List TypeRef}
    (ha : a.WellFormed) (hfirst : ReadsBack a) (hmore : ∀ b ∈ arguments, ReadsBack b) {bound : Nat}
    (rest : List Char) (hlength : a.text.toList.length < bound)
    (hlengths : (textBehind arguments).toList.length < bound) :
    readArgumentsWithin (bound + 1)
      ('<' :: (a.text.toList ++ ((textBehind arguments).toList ++ '>' :: rest))) =
        .ok (a :: arguments, rest) := by
  have hcloses := closes_textBehind arguments rest
  have hread := hfirst 0 (fun _ => rfl) hcloses hlength
  obtain ⟨c, s, heq, hblank, hne⟩ := ha.text_head
  rw [heq] at hread ⊢
  have htrim : trimStart (c :: s ++ ((textBehind arguments).toList ++ '>' :: rest)) =
      c :: (s ++ ((textBehind arguments).toList ++ '>' :: rest)) := by
    simp [trimStart, hblank]
  rw [readArgumentsWithin, htrim]
  simp only [brackets, List.nil_append, List.cons_append] at hread
  split
  · next h => exact absurd (List.cons.inj h).1 hne
  · simp only [bind, Except.bind, hread, hcloses.stops.trimStart_eq_self,
      readMoreArgumentsWithin_textBehind hmore rest hlengths]
    rfl

/-- A name without arguments is read back, as a primitive type if it is a keyword. -/
private theorem readTypeWithin_bare {name : String} (hname : IsDottedName name)
    (bound layers : Nat) {rest : List Char} (hrest : Closes rest) :
    readTypeWithin (bound + 1) (name.toList ++ (brackets layers ++ rest)) =
      .ok ((ofName name []).arrayed layers, rest) := by
  obtain ⟨hstops, hne⟩ := stops_brackets layers hrest
  refine readTypeWithin_name hname hstops.endsName ?_ (readDimensions_brackets layers hrest)
  rw [hstops.trimStart_eq_self]
  exact readArgumentsWithin_of_ne hne bound

private theorem ReadsBack.array {element : TypeRef} (hne : element ≠ .wildcard)
    (h : ReadsBack element) : ReadsBack (.array element) := by
  intro layers bound rest _ hrest hbound
  -- The marks of the array are the first of the marks behind its element.
  have htext : (TypeRef.array element).text.toList ++ (brackets layers ++ rest) =
      element.text.toList ++ (brackets (layers + 1) ++ rest) := by
    simp [text, brackets]
  rw [htext, arrayed_array]
  refine h (layers + 1) (fun hwildcard => absurd hwildcard hne) hrest ?_
  simp [text] at hbound
  omega

private theorem ReadsBack.named {name : String} (hname : IsDottedName name) {a : TypeRef}
    {arguments : List TypeRef} (ha : a.WellFormed) (hfirst : ReadsBack a)
    (hmore : ∀ b ∈ arguments, ReadsBack b) : ReadsBack (.named name (a :: arguments)) := by
  intro layers bound rest _ hrest hbound
  have htext : (TypeRef.named name (a :: arguments)).text.toList ++ (brackets layers ++ rest) =
      name.toList ++ '<' :: (a.text.toList ++
        ((textBehind arguments).toList ++ '>' :: (brackets layers ++ rest))) := by
    simp [text]
  -- Besides its arguments, the text has at least one character of the name and two brackets.
  have hlength : a.text.toList.length + (textBehind arguments).toList.length + 2 < bound := by
    obtain ⟨c, more, heq, -, -⟩ := isDottedName_iff.mp hname
    simp [text, heq] at hbound
    omega
  obtain ⟨bound, rfl⟩ := Nat.exists_eq_add_of_le' (Nat.le_of_lt (Nat.lt_of_add_left_lt hlength))
  have hlengths : a.text.toList.length < bound ∧ (textBehind arguments).toList.length < bound := by
    omega
  have hread := readArgumentsWithin_cons ha hfirst hmore (brackets layers ++ rest) hlengths.1
    hlengths.2
  have hstops : Stops ('<' :: (a.text.toList ++
      ((textBehind arguments).toList ++ '>' :: (brackets layers ++ rest)))) := by
    simp [Stops]
  rw [htext, readTypeWithin_name hname hstops.endsName hread (readDimensions_brackets layers hrest),
    ofName_eq_named (by simp)]

/-- A written type is read back, whatever may follow it. -/
theorem readTypeWithin_text {t : TypeRef} (ht : t.WellFormed) : ReadsBack t := by
  induction ht with
  | primitive p =>
    intro layers bound rest _ hrest hbound
    obtain ⟨bound, rfl⟩ := Nat.exists_eq_add_one.mpr (Nat.zero_lt_of_lt hbound)
    rw [text, readTypeWithin_bare (isDottedName_keyword p) bound layers hrest, ofName_keyword]
  | wildcard =>
    intro layers bound rest hlayers hrest hbound
    obtain ⟨bound, rfl⟩ := Nat.exists_eq_add_one.mpr (Nat.zero_lt_of_lt hbound)
    rw [hlayers rfl]
    exact readTypeWithin_wildcard bound hrest
  | array hne _ ih => exact .array hne ih
  | @named name arguments hname hkeyword hwell ih =>
    cases arguments with
    | nil =>
      intro layers bound rest _ hrest hbound
      obtain ⟨bound, rfl⟩ := Nat.exists_eq_add_one.mpr (Nat.zero_lt_of_lt hbound)
      rw [text, readTypeWithin_bare hname bound layers hrest, ofName_eq_named hkeyword]
    | cons a arguments =>
      rw [List.forall_mem_cons] at hwell ih
      exact .named hname hwell.1 ih.1 ih.2

/-! ### Whatever is read -/

/-- What the four readers of a bound have in common: they give well-formed types only. -/
structure ReadsWellFormed (bound : Nat) : Prop where
  /-- The types that are read. -/
  type : ∀ {s t r}, readTypeWithin bound s = .ok (t, r) → t.WellFormed
  /-- The types that stand for wildcards. -/
  wildcard : ∀ {s t r}, readWildcardWithin bound s = .ok (t, r) → t.WellFormed
  /-- The arguments of a name. -/
  arguments : ∀ {s ts r}, readArgumentsWithin bound s = .ok (ts, r) → ∀ t ∈ ts, t.WellFormed
  /-- The arguments behind the first one. -/
  moreArguments :
    ∀ {s ts r}, readMoreArgumentsWithin bound s = .ok (ts, r) → ∀ t ∈ ts, t.WellFormed

namespace ReadsWellFormed

variable {bound : Nat}

private theorem type_succ (h : ReadsWellFormed bound) {s r : List Char} {t : TypeRef}
    (hread : readTypeWithin (bound + 1) s = .ok (t, r)) : t.WellFormed := by
  unfold readTypeWithin at hread
  split at hread
  · cases hread
  · cases hread
  · next heq _ =>
    cases heq
    exact h.wildcard hread
  · next c s _ heq _ =>
    cases heq
    split at hread
    · -- The only place at which something new is built: a name with arguments and layers.
      next hc =>
      obtain ⟨⟨more, r⟩, hmore, hread⟩ := exists_of_bind_eq_ok hread
      obtain ⟨⟨arguments, r⟩, harguments, hread⟩ := exists_of_bind_eq_ok hread
      obtain ⟨⟨layers, r⟩, -, hread⟩ := exists_of_bind_eq_ok hread
      cases hread
      have hname : IsDottedName (String.ofList (c :: more)) :=
        isDottedName_iff.mpr ⟨c, more, by simp, hc, nameRest_of_readNameRest hmore⟩
      have hwell := WellFormed.ofName hname (h.arguments harguments)
      exact hwell.arrayed (ofName_ne_wildcard _ _) layers
    · cases hread

private theorem wildcard_succ (h : ReadsWellFormed bound) {s r : List Char} {t : TypeRef}
    (hread : readWildcardWithin (bound + 1) s = .ok (t, r)) : t.WellFormed := by
  unfold readWildcardWithin at hread
  split at hread
  · exact h.type hread
  · split at hread
    · obtain ⟨⟨lower, r⟩, -, hread⟩ := exists_of_bind_eq_ok hread
      cases hread
      exact .wildcard
    · cases hread
      exact .wildcard

private theorem cons (h : ReadsWellFormed bound) {s r : List Char}
    {ts : List TypeRef} (hread : (do
      let (argument, r) ← readTypeWithin bound s
      let (more, r) ← readMoreArgumentsWithin bound (trimStart r)
      return (argument :: more, r)) = Except.ok (ts, r)) : ∀ t ∈ ts, t.WellFormed := by
  obtain ⟨⟨argument, r⟩, hfirst, hread⟩ := exists_of_bind_eq_ok hread
  obtain ⟨⟨more, r⟩, hmore, hread⟩ := exists_of_bind_eq_ok hread
  cases hread
  rw [List.forall_mem_cons]
  exact ⟨h.type hfirst, h.moreArguments hmore⟩

private theorem arguments_succ (h : ReadsWellFormed bound) {s r : List Char} {ts : List TypeRef}
    (hread : readArgumentsWithin (bound + 1) s = .ok (ts, r)) : ∀ t ∈ ts, t.WellFormed := by
  unfold readArgumentsWithin at hread
  split at hread
  · next heq =>
    cases heq
    split at hread
    · cases hread
      simp
    · exact h.cons hread
  · cases hread
    simp

private theorem moreArguments_succ (h : ReadsWellFormed bound) {s r : List Char}
    {ts : List TypeRef} (hread : readMoreArgumentsWithin (bound + 1) s = .ok (ts, r)) :
    ∀ t ∈ ts, t.WellFormed := by
  unfold readMoreArgumentsWithin at hread
  split at hread
  · cases hread
  · cases hread
    simp
  · next heq =>
    cases heq
    exact h.cons hread
  · cases hread

end ReadsWellFormed

/-- Whatever is read is well-formed. -/
theorem readsWellFormed (bound : Nat) : ReadsWellFormed bound := by
  induction bound with
  | zero =>
    constructor
    · intro s t r hread
      rw [readTypeWithin] at hread
      cases hread
    · intro s t r hread
      rw [readWildcardWithin] at hread
      cases hread
      exact .wildcard
    · intro s ts r hread
      unfold readArgumentsWithin at hread
      cases hread
      simp
    · intro s ts r hread
      rw [readMoreArgumentsWithin] at hread
      cases hread
  | succ bound ih =>
    exact ⟨ih.type_succ, ih.wildcard_succ, ih.arguments_succ, ih.moreArguments_succ⟩

/-! ### Whole texts -/

/-- The text of a well-formed type reads as the type. -/
theorem WellFormed.parse_text {t : TypeRef} (ht : t.WellFormed) : parse t.text = .ok t := by
  obtain ⟨c, s, heq, hblank, -⟩ := ht.text_head
  have hclosed : Closes [] := by simp [Closes]
  have hread : readType t.text.toList = .ok (t, []) := by
    simpa [readType, brackets, TypeRef.arrayed] using
      readTypeWithin_text ht 0 (fun _ => rfl) hclosed (Nat.lt_succ_self _)
  have hblanks : allBlank t.text.toList = false := by
    simp [heq, allBlank, hblank]
  simp [parse, hblanks, hread, trimStart]

/-- Only well-formed types are read. -/
theorem wellFormed_of_parse {s : String} {t : TypeRef} (h : parse s = .ok t) :
    t.WellFormed := by
  unfold parse at h
  split at h
  · cases h
  · split at h
    · cases h
    · next hread =>
      split at h
      · cases h
        exact (readsWellFormed _).type hread
      · cases h

/-- **Type text round trip.** A type is well-formed exactly when its text reads as the type again,
and exactly when any text at all reads as it. So reading the text of what was read changes nothing,
and types that were read are equal exactly when their texts are. -/
theorem parse_text_roundTrip :
    (∀ t : TypeRef,
      List.TFAE [t.WellFormed, parse t.text = .ok t, ∃ s, parse s = .ok t]) ∧
    (∀ s t, parse s = .ok t → parse t.text = parse s) ∧
    ∀ s s' t t', parse s = .ok t → parse s' = .ok t' → (t = t' ↔ t.text = t'.text) := by
  refine ⟨fun t => ?_, fun s t h => ?_, fun s s' t t' h h' => ⟨congrArg text, fun htext => ?_⟩⟩
  · tfae_have 1 → 2 := WellFormed.parse_text
    tfae_have 2 → 3 := fun h => ⟨t.text, h⟩
    tfae_have 3 → 1 := fun ⟨_, h⟩ => wellFormed_of_parse h
    tfae_finish
  · rw [(wellFormed_of_parse h).parse_text, h]
  · have hback := (wellFormed_of_parse h).parse_text
    rw [htext, (wellFormed_of_parse h').parse_text] at hback
    exact (Except.ok.inj hback).symm

end HandlerDocs.TypeRef
