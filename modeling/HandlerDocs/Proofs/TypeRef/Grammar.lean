import HandlerDocs.Proofs.Text.Ends
import HandlerDocs.Proofs.TypeRef.RoundTrip
import Mathlib.Data.List.TakeWhile

/-!
# The grammar of type text

`IsType s t r` says that a type with the tree `t` stands at the front of the text `s`, with the text
`r` behind it; the other relations of the grammar are read in the same way. Blanks may stand in
front of every mark and every name, but not inside of a name, and identifiers are as long as they
can be. The grammar does not say how to find a derivation: at many places a text has several
beginnings that fit, and which of them fits the whole text shows only at its end.

* `IsType`, `IsArguments`, `IsMoreArguments`, `IsLayers`, `IsNamed`, `IsWord` — the grammar.
* `IsType.blanks`, `IsMoreArguments.blanks`, `IsLayers.blanks` — blanks in front of what is derived.
* `IsType.ofName` — a name ends in front of whatever the grammar derives behind it.
* `IsType.length_le` — nothing grows behind what is derived.
-/

namespace HandlerDocs.TypeRef

open Text

/-! ### The grammar -/

/-- Any number of blanks. -/
def Blanks (s r : List Char) : Prop :=
  ∃ w, s = w ++ r ∧ ∀ c ∈ w, isBlank c = true

/-- A word of identifiers that the text behind it does not prolong. -/
def IsWord (word s r : List Char) : Prop :=
  s = word ++ r ∧ ∀ c ∈ r.head?, isIdentifierPart c = false

/-- The type with a name and arguments: a primitive keyword without arguments is that primitive
type, and anything else is a class. -/
inductive IsNamed : String → List TypeRef → TypeRef → Prop
  | primitive (p : Primitive) : IsNamed p.keyword [] (.primitive p)
  | named {name : String} {arguments : List TypeRef} :
    (∀ p : Primitive, name = p.keyword → arguments ≠ []) →
      IsNamed name arguments (.named name arguments)

/-- Array marks around an element: any number of `[]` and `...`, each for one more array. -/
inductive IsLayers : List Char → TypeRef → TypeRef → List Char → Prop
  | nil {s : List Char} {t : TypeRef} : IsLayers s t t s
  | brackets {s s₁ s₂ r : List Char} {t t' : TypeRef} :
    Blanks s ('[' :: s₁) → Blanks s₁ (']' :: s₂) → IsLayers s₂ (.array t) t' r → IsLayers s t t' r
  | dots {s s₁ r : List Char} {t t' : TypeRef} :
    Blanks s ('.' :: '.' :: '.' :: s₁) → IsLayers s₁ (.array t) t' r → IsLayers s t t' r

mutual

/-- A type. -/
inductive IsType : List Char → TypeRef → List Char → Prop
  /-- `?` that no identifier follows. -/
  | unbounded {s r : List Char} :
    Blanks s ('?' :: r) → (∀ c r', Blanks r (c :: r') → isIdentifierStart c = false) →
      IsType s .wildcard r
  /-- `? extends T` stands for `T`. -/
  | upper {s s₁ s₂ s₃ r : List Char} {t : TypeRef} :
    Blanks s ('?' :: s₁) → Blanks s₁ s₂ → IsWord ['e', 'x', 't', 'e', 'n', 'd', 's'] s₂ s₃ →
      IsType s₃ t r → IsType s t r
  /-- `? super T`. -/
  | lower {s s₁ s₂ s₃ r : List Char} {t : TypeRef} :
    Blanks s ('?' :: s₁) → Blanks s₁ s₂ → IsWord ['s', 'u', 'p', 'e', 'r'] s₂ s₃ →
      IsType s₃ t r → IsType s .wildcard r
  /-- A name with arguments and array marks. -/
  | named {s s₁ s₂ s₃ r : List Char} {name : String} {arguments : List TypeRef} {t t' : TypeRef} :
    Blanks s s₁ → IsDottedName name → IsWord name.toList s₁ s₂ → IsArguments s₂ arguments s₃ →
      IsNamed name arguments t → IsLayers s₃ t t' r → IsType s t' r

/-- The arguments of a name. -/
inductive IsArguments : List Char → List TypeRef → List Char → Prop
  | nil {s : List Char} : IsArguments s [] s
  /-- `<>`. -/
  | diamond {s s₁ r : List Char} : Blanks s ('<' :: s₁) → Blanks s₁ ('>' :: r) → IsArguments s [] r
  /-- Types between brackets. -/
  | list {s s₁ s₂ r : List Char} {t : TypeRef} {ts : List TypeRef} :
    Blanks s ('<' :: s₁) → IsType s₁ t s₂ → IsMoreArguments s₂ ts r → IsArguments s (t :: ts) r

/-- Arguments behind the first one, each with a comma in front of it, and the closing bracket. -/
inductive IsMoreArguments : List Char → List TypeRef → List Char → Prop
  | nil {s r : List Char} : Blanks s ('>' :: r) → IsMoreArguments s [] r
  | cons {s s₁ s₂ r : List Char} {t : TypeRef} {ts : List TypeRef} :
    Blanks s (',' :: s₁) → IsType s₁ t s₂ → IsMoreArguments s₂ ts r →
      IsMoreArguments s (t :: ts) r

end

/-! ### Blanks -/

namespace Blanks

variable {s r u : List Char}

theorem refl (s : List Char) : Blanks s s :=
  ⟨[], rfl, by simp⟩

theorem trans (h : Blanks s r) (h' : Blanks r u) : Blanks s u := by
  obtain ⟨w, rfl, hw⟩ := h
  obtain ⟨w', rfl, hw'⟩ := h'
  refine ⟨w ++ w', by simp, fun c hc => ?_⟩
  exact (List.mem_append.mp hc).elim (hw c) (hw' c)

theorem cons {c : Char} (hc : isBlank c = true) (h : Blanks s r) : Blanks (c :: s) r := by
  obtain ⟨w, rfl, hw⟩ := h
  exact ⟨c :: w, rfl, by simpa [hc] using hw⟩

theorem trimStart (s : List Char) : Blanks s (trimStart s) :=
  ⟨s.takeWhile isBlank, List.takeWhile_append_dropWhile.symm, fun _ => List.mem_takeWhile_imp⟩

/-- Induction on the blanks, from the text behind them. -/
theorem induct {motive : List Char → Prop} (h : Blanks s r) (base : motive r)
    (step : ∀ c s, isBlank c = true → motive s → motive (c :: s)) : motive s := by
  obtain ⟨w, rfl, hw⟩ := h
  induction w with
  | nil => exact base
  | cons c w ih =>
    rw [List.forall_mem_cons] at hw
    exact step c (w ++ r) hw.1 (ih hw.2)

theorem trimStart_eq (h : Blanks s r) : Text.trimStart s = Text.trimStart r :=
  h.induct (motive := fun s => Text.trimStart s = Text.trimStart r) rfl fun c s hc ih => by
    rw [← ih, Text.trimStart, List.dropWhile_cons_of_pos hc, Text.trimStart]

theorem trimStart_eq_cons {c : Char} (h : Blanks s (c :: r)) (hc : isBlank c = false) :
    Text.trimStart s = c :: r := by
  rw [h.trimStart_eq, Text.trimStart, List.dropWhile_cons_of_neg (by simp [hc])]

theorem length_le (h : Blanks s r) : r.length ≤ s.length := by
  obtain ⟨w, rfl, -⟩ := h
  simp

theorem length_lt {c : Char} (h : Blanks s (c :: r)) : r.length < s.length :=
  h.length_le

end Blanks

/-! ### Words and names -/

theorem isWord_takeWhile (s : List Char) :
    IsWord (s.takeWhile isIdentifierPart) s (s.dropWhile isIdentifierPart) :=
  ⟨List.takeWhile_append_dropWhile.symm, head?_dropWhile isIdentifierPart s⟩

theorem IsWord.takeWhile_dropWhile {word s r : List Char} (h : IsWord word s r)
    (hword : word.all isIdentifierPart = true) :
    s.takeWhile isIdentifierPart = word ∧ s.dropWhile isIdentifierPart = r := by
  obtain ⟨rfl, hr⟩ := h
  rw [List.all_eq_true] at hword
  rw [List.takeWhile_append_of_pos hword, List.dropWhile_append_of_pos hword]
  cases r with
  | nil => simp
  | cons c r => simp [hr c rfl]

theorem IsWord.trimStart_eq {c : Char} {word s s₁ r : List Char} (h : IsWord (c :: word) s₁ r)
    (hs : Blanks s s₁) (hc : isBlank c = false) : trimStart s = s₁ := by
  obtain ⟨rfl, -⟩ := h
  exact hs.trimStart_eq_cons hc

theorem isNamed_ofName (name : String) (arguments : List TypeRef) :
    IsNamed name arguments (ofName name arguments) := by
  unfold ofName
  split
  · next p hp =>
    obtain rfl := Primitive.ofKeyword?_eq_some_iff.mp hp
    exact .primitive p
  · next hkeyword =>
    exact .named fun p hp hnil => hkeyword p hnil (Primitive.ofKeyword?_eq_some_iff.mpr hp)

theorem IsNamed.eq_ofName {name : String} {arguments : List TypeRef} {t : TypeRef}
    (h : IsNamed name arguments t) : t = ofName name arguments := by
  cases h with
  | primitive p => exact (ofName_keyword p).symm
  | named h => exact (ofName_eq_named h).symm

/-! ### Blanks in front of what is derived -/

/-- Blanks in front of array marks belong to them; without array marks, they are left. -/
theorem IsLayers.blanks {s s' r r' : List Char} {t t' : TypeRef} (hs : Blanks s s')
    (h : IsLayers s' t t' r) (hr : Blanks r r') : ∃ u, IsLayers s t t' u ∧ Blanks u r' := by
  cases h with
  | nil => exact ⟨s, .nil, hs.trans hr⟩
  | brackets hopen hclose h => exact ⟨r, .brackets (hs.trans hopen) hclose h, hr⟩
  | dots hdots h => exact ⟨r, .dots (hs.trans hdots) h, hr⟩

theorem IsLayers.blanks_of_length_lt {s s' r : List Char} {t t' : TypeRef} (hs : Blanks s s')
    (h : IsLayers s' t t' r) (hr : r.length < s'.length) : IsLayers s t t' r := by
  cases h with
  | nil => exact absurd hr (lt_irrefl _)
  | brackets hopen hclose h => exact .brackets (hs.trans hopen) hclose h
  | dots hdots h => exact .dots (hs.trans hdots) h

theorem IsType.blanks {s s' r : List Char} {t : TypeRef} (hs : Blanks s s') (h : IsType s' t r) :
    IsType s t r := by
  cases h with
  | unbounded hquestion hr => exact .unbounded (hs.trans hquestion) hr
  | upper hquestion hblanks hword h => exact .upper (hs.trans hquestion) hblanks hword h
  | lower hquestion hblanks hword h => exact .lower (hs.trans hquestion) hblanks hword h
  | named hblanks hname hword harguments ht hlayers =>
    exact .named (hs.trans hblanks) hname hword harguments ht hlayers

theorem IsMoreArguments.blanks {s s' r : List Char} {ts : List TypeRef} (hs : Blanks s s')
    (h : IsMoreArguments s' ts r) : IsMoreArguments s ts r := by
  cases h with
  | nil hclose => exact .nil (hs.trans hclose)
  | cons hcomma ht hts => exact .cons (hs.trans hcomma) ht hts

/-! ### What stands behind a word -/

/-- Blanks do not prolong a word. -/
theorem Blanks.not_isIdentifierPart {s r : List Char} (h : Blanks s r)
    (hr : ∀ c ∈ r.head?, isIdentifierPart c = false) :
    ∀ c ∈ s.head?, isIdentifierPart c = false := by
  refine h.induct (motive := fun s => ∀ c ∈ s.head?, isIdentifierPart c = false) hr ?_
  rintro c s hc - _ ⟨⟩
  cases hpart : isIdentifierPart c with
  | false => rfl
  | true => exact absurd (isBlank_of_isIdentifierPart hpart) (by simp [hc])

/-- Array marks do not prolong a word. -/
theorem IsLayers.not_isIdentifierPart {s r : List Char} {t t' : TypeRef} (h : IsLayers s t t' r)
    (hr : ∀ c ∈ r.head?, isIdentifierPart c = false) :
    ∀ c ∈ s.head?, isIdentifierPart c = false := by
  cases h with
  | nil => exact hr
  | brackets hopen => exact hopen.not_isIdentifierPart (by simp; decide)
  | dots hdots => exact hdots.not_isIdentifierPart (by simp; decide)

/-- Arguments do not prolong a word. -/
theorem IsArguments.not_isIdentifierPart {s r : List Char} {ts : List TypeRef}
    (h : IsArguments s ts r) (hr : ∀ c ∈ r.head?, isIdentifierPart c = false) :
    ∀ c ∈ s.head?, isIdentifierPart c = false := by
  cases h with
  | nil => exact hr
  | diamond hopen | list hopen => exact hopen.not_isIdentifierPart (by simp; decide)

/-- A name with its arguments and array marks is a type, if no word goes on behind them. -/
theorem IsType.ofName {c : Char} {more s s' r : List Char} {ts : List TypeRef} {t : TypeRef}
    (hc : isIdentifierStart c = true) (hmore : NameRest more) (harguments : IsArguments s ts s')
    (hlayers : IsLayers s' (ofName (String.ofList (c :: more)) ts) t r)
    (hr : ∀ c ∈ r.head?, isIdentifierPart c = false) : IsType (c :: (more ++ s)) t r := by
  have hname : IsDottedName (String.ofList (c :: more)) :=
    isDottedName_iff.mpr ⟨c, more, by simp, hc, hmore⟩
  have hword : IsWord (String.ofList (c :: more)).toList (c :: (more ++ s)) s :=
    ⟨by simp, harguments.not_isIdentifierPart (hlayers.not_isIdentifierPart hr)⟩
  exact .named (.refl _) hname hword harguments (isNamed_ofName _ _) hlayers

/-- The end of an argument does not prolong a word. -/
theorem Closes.not_isIdentifierPart {s : List Char} (h : Closes (trimStart s)) :
    ∀ c ∈ s.head?, isIdentifierPart c = false := by
  refine (Blanks.trimStart s).not_isIdentifierPart fun c hc => ?_
  rcases h c hc with rfl | rfl <;> decide

/-! ### Lengths -/

theorem IsWord.length_eq {word s r : List Char} (h : IsWord word s r) :
    s.length = word.length + r.length := by
  obtain ⟨rfl, -⟩ := h
  simp

theorem IsWord.length_lt {c : Char} {word s r : List Char} (h : IsWord (c :: word) s r) :
    r.length < s.length := by
  simp only [h.length_eq, List.length_cons]
  omega

theorem IsLayers.length_le {s r : List Char} {t t' : TypeRef} (h : IsLayers s t t' r) :
    r.length ≤ s.length := by
  induction h with
  | nil => exact le_rfl
  | brackets hopen hclose _ ih => exact ih.trans (hclose.length_lt.trans hopen.length_lt).le
  | dots hdots _ ih =>
    have hlength := hdots.length_lt
    simp only [List.length_cons] at hlength
    omega

mutual

theorem IsType.length_le {s r : List Char} {t : TypeRef} : IsType s t r → r.length ≤ s.length
  | .unbounded hquestion _ => hquestion.length_lt.le
  | .upper hquestion hblanks hword h | .lower hquestion hblanks hword h =>
    ((h.length_le.trans hword.length_lt.le).trans hblanks.length_le).trans hquestion.length_lt.le
  | @IsType.named _ s₁ s₂ _ _ _ _ _ _ hblanks _ hword harguments _ hlayers => by
    have hname : s₂.length ≤ s₁.length := hword.length_eq ▸ Nat.le_add_left ..
    exact ((hlayers.length_le.trans harguments.length_le).trans hname).trans hblanks.length_le

theorem IsArguments.length_le {s r : List Char} {ts : List TypeRef} :
    IsArguments s ts r → r.length ≤ s.length
  | .nil => le_rfl
  | .diamond hopen hclose => (hclose.length_lt.trans hopen.length_lt).le
  | .list hopen hfirst hmore =>
    (hmore.length_le.trans hfirst.length_le).trans hopen.length_lt.le

theorem IsMoreArguments.length_le {s r : List Char} {ts : List TypeRef} :
    IsMoreArguments s ts r → r.length ≤ s.length
  | .nil hclose => hclose.length_lt.le
  | .cons hcomma hfirst hmore =>
    (hmore.length_le.trans hfirst.length_le).trans hcomma.length_lt.le

end

end HandlerDocs.TypeRef
