import HandlerDocs.Proofs.TypeRef.Grammar

/-!
# The texts that are accepted

Reading a text finds the derivation of the whole text in the grammar, if there is one, and nothing
else is accepted. This works since a type in a text that is derivable is followed by a comma, a
closing bracket or the end (`Closes`), so that it takes all of the array marks, and a `?` with a
word behind it has a bound.

* `IsType.isRead` — what is derivable is read, by induction on the derivation.
* `readsDerivable` — what is read is derivable, in front of its rest and of other texts, by
  induction on the bound of the readers.
* `parse_eq_ok_iff_isType` — the texts that are accepted, and their trees.
-/

namespace HandlerDocs.TypeRef

open Text

/-! ### Array marks -/

/-- Blanks in front of array marks are passed over, inside of a bracket as well. -/
private theorem readDimensions_cons {c : Char} (hc : isBlank c = true) (isOpen : Bool)
    (s : List Char) : readDimensions isOpen (c :: s) = readDimensions isOpen s := by
  have hdot : c ≠ '.' := by
    rintro rfl
    exact absurd hc (by decide)
  rw [readDimensions.eq_def]
  split
  · next h => cases h
  · next h => exact absurd (List.cons.inj h).1 hdot
  · next h =>
    cases h
    exact if_pos hc

private theorem Blanks.readDimensions_eq {s r : List Char} (h : Blanks s r) (isOpen : Bool) :
    readDimensions isOpen s = readDimensions isOpen r :=
  h.induct (motive := fun s => readDimensions isOpen s = readDimensions isOpen r) rfl
    fun _ s hc ih => (readDimensions_cons hc isOpen s).trans ih

/-- Where an argument ends, no array marks are read. -/
private theorem readDimensions_of_closes {s : List Char} (h : Closes (trimStart s)) :
    readDimensions false s = .ok (0, trimStart s) := by
  rw [(Blanks.trimStart s).readDimensions_eq]
  cases hs : trimStart s with
  | nil => rfl
  | cons c r =>
    rw [hs] at h
    rcases h c rfl with rfl | rfl <;> rfl

/-- Three dots count as one more layer. -/
private theorem readDimensions_dots {s r : List Char} {layers : Nat}
    (h : readDimensions false s = .ok (layers, r)) :
    readDimensions false ('.' :: '.' :: '.' :: s) = .ok (layers + 1, r) :=
  calc readDimensions false ('.' :: '.' :: '.' :: s)
    _ = readDimensions false s >>= fun p => .ok (p.1 + 1, p.2) := rfl
    _ = .ok (layers + 1, r) := by
      rw [h]
      rfl

/-- Array marks in front of the end of an argument are read. -/
theorem IsLayers.readDimensions_eq {s r : List Char} {t t' : TypeRef} (h : IsLayers s t t' r)
    (hr : Closes (trimStart r)) :
    ∃ layers, readDimensions false s = .ok (layers, trimStart r) ∧ t' = t.arrayed layers := by
  induction h with
  | nil => exact ⟨0, readDimensions_of_closes hr, rfl⟩
  | @brackets s s₁ s₂ r t t' hopen hclose _ ih =>
    obtain ⟨layers, hread, rfl⟩ := ih hr
    refine ⟨layers + 1, ?_, arrayed_array t layers⟩
    have hbracket : readDimensions false ('[' :: s₁) = readDimensions true s₁ := rfl
    rw [hopen.readDimensions_eq, hbracket, hclose.readDimensions_eq]
    exact readDimensions_close hread
  | @dots s s₁ r t t' hdots _ ih =>
    obtain ⟨layers, hread, rfl⟩ := ih hr
    refine ⟨layers + 1, ?_, arrayed_array t layers⟩
    rw [hdots.readDimensions_eq]
    exact readDimensions_dots hread

/-- Array marks in a text, from inside of a bracket (`isOpen`) or not, whatever stands behind it. -/
private def Marks (isOpen : Bool) (p : List Char) (layers : Nat) : Prop :=
  ∀ (t : TypeRef) (v : List Char),
    match isOpen with
    | false => ∃ u, IsLayers (p ++ v) t (t.arrayed layers) u ∧ Blanks u v
    | true => ∃ s' u, Blanks (p ++ v) (']' :: s') ∧ IsLayers s' (.array t) (t.arrayed layers) u ∧
      Blanks u v

/-- The array marks that are read are there. -/
private theorem marks_of_readDimensions {isOpen : Bool} {s r : List Char} {layers : Nat}
    (h : readDimensions isOpen s = .ok (layers, r)) : ∃ p, s = p ++ r ∧ Marks isOpen p layers := by
  fun_induction readDimensions isOpen s generalizing layers r with
  | case1 | case3 | case7 => cases h
  | case2 isOpen hopen =>
    cases h
    obtain rfl : isOpen = false := by simpa using hopen
    exact ⟨[], rfl, fun t v => ⟨v, .nil, .refl v⟩⟩
  | case4 isOpen s hopen ih =>
    obtain ⟨⟨count, r⟩, hread, h⟩ := exists_of_bind_eq_ok h
    cases h
    obtain rfl : isOpen = false := by simpa using hopen
    obtain ⟨p, rfl, hmarks⟩ := ih hread
    refine ⟨'.' :: '.' :: '.' :: p, rfl, fun t v => ?_⟩
    obtain ⟨u, hlayers, hu⟩ := hmarks (.array t) v
    rw [arrayed_array] at hlayers
    exact ⟨u, .dots (.refl _) hlayers, hu⟩
  | case5 isOpen c s _ hc ih =>
    obtain ⟨p, rfl, hmarks⟩ := ih h
    refine ⟨c :: p, rfl, fun t v => ?_⟩
    cases isOpen with
    | false =>
      obtain ⟨u, hlayers, hu⟩ := hmarks t v
      exact hlayers.blanks ((Blanks.refl _).cons hc) hu
    | true =>
      obtain ⟨s', u, hend, hlayers, hu⟩ := hmarks t v
      exact ⟨s', u, hend.cons hc, hlayers, hu⟩
  | case6 s _ _ ih =>
    obtain ⟨⟨count, r⟩, hread, h⟩ := exists_of_bind_eq_ok h
    cases h
    obtain ⟨p, rfl, hmarks⟩ := ih hread
    refine ⟨']' :: p, rfl, fun t v => ?_⟩
    obtain ⟨u, hlayers, hu⟩ := hmarks (.array t) v
    rw [arrayed_array] at hlayers
    exact ⟨_, u, .refl _, hlayers, hu⟩
  | case8 isOpen s hopen _ _ ih =>
    obtain rfl : isOpen = false := by simpa using hopen
    obtain ⟨p, rfl, hmarks⟩ := ih h
    refine ⟨'[' :: p, rfl, fun t v => ?_⟩
    obtain ⟨s', u, hend, hlayers, hu⟩ := hmarks t v
    exact ⟨u, .brackets (.refl _) hend hlayers, hu⟩
  | case9 isOpen c s _ _ hopen _ =>
    cases h
    obtain rfl : isOpen = false := by simpa using hopen
    exact ⟨[], rfl, fun t v => ⟨v, .nil, .refl v⟩⟩

/-! ### Reading what is derivable -/

/-- In front of the end of an argument, a type is read. -/
def TypeIsRead (s : List Char) (t : TypeRef) (r : List Char) : Prop :=
  Closes (trimStart r) → ∀ bound, s.length < bound →
    readTypeWithin bound s = .ok (t, trimStart r)

/-- Where no bracket opens, arguments are read, with or without the blanks behind them. -/
def ArgumentsAreRead (s : List Char) (ts : List TypeRef) (r : List Char) : Prop :=
  (trimStart r).head? ≠ some '<' → ∀ bound, s.length < bound →
    ∃ r', readArgumentsWithin bound (trimStart s) = .ok (ts, r') ∧ trimStart r' = trimStart r

/-- The arguments behind the first one are read. -/
def MoreArgumentsAreRead (s : List Char) (ts : List TypeRef) (r : List Char) : Prop :=
  ∀ bound, s.length < bound → readMoreArgumentsWithin bound (trimStart s) = .ok (ts, r)

private theorem Blanks.readTypeWithin_eq {s r : List Char} (h : Blanks s r) (bound : Nat) :
    readTypeWithin bound s = readTypeWithin bound r := by
  unfold readTypeWithin
  rw [h.trimStart_eq]

private theorem readTypeWithin_question {s r : List Char} (h : Blanks s ('?' :: r)) (bound : Nat) :
    readTypeWithin (bound + 1) s = readWildcardWithin bound (trimStart r) := by
  unfold readTypeWithin
  rw [h.trimStart_eq_cons (by decide)]
  rfl

private theorem readWildcardWithin_extends {s s₁ r : List Char} (hs : Blanks s s₁)
    (hword : IsWord ['e', 'x', 't', 'e', 'n', 'd', 's'] s₁ r) (bound : Nat) :
    readWildcardWithin (bound + 1) (trimStart s) = readTypeWithin bound r := by
  obtain ⟨htake, hdrop⟩ := hword.takeWhile_dropWhile (by decide)
  rw [hword.trimStart_eq hs (by decide), readWildcardWithin, if_pos htake, hdrop]

private theorem readWildcardWithin_super {s s₁ r : List Char} (hs : Blanks s s₁)
    (hword : IsWord ['s', 'u', 'p', 'e', 'r'] s₁ r) (bound : Nat) :
    readWildcardWithin (bound + 1) (trimStart s) = (do
      let (_, r) ← readTypeWithin bound r
      return (.wildcard, r)) := by
  obtain ⟨htake, hdrop⟩ := hword.takeWhile_dropWhile (by decide)
  rw [hword.trimStart_eq hs (by decide), readWildcardWithin, if_neg (by simp [htake]),
    if_pos htake, hdrop]

theorem IsMoreArguments.closes {s r : List Char} {ts : List TypeRef} (h : IsMoreArguments s ts r) :
    Closes (trimStart s) := by
  cases h with
  | nil hclose =>
    rw [hclose.trimStart_eq_cons (by decide)]
    simp [Closes]
  | cons hcomma =>
    rw [hcomma.trimStart_eq_cons (by decide)]
    simp [Closes]

/-- Between a name and the end of an argument, no bracket of arguments opens any more. -/
theorem IsLayers.head_ne {s r : List Char} {t t' : TypeRef} (h : IsLayers s t t' r)
    (hr : Closes (trimStart r)) : (trimStart s).head? ≠ some '<' := by
  cases h with
  | nil => exact hr.head_ne (by decide) (by decide)
  | brackets hopen _ _ =>
    rw [hopen.trimStart_eq_cons (by decide)]
    simp
  | dots hdots _ =>
    rw [hdots.trimStart_eq_cons (by decide)]
    simp

/-- No type starts with a closing bracket. -/
theorem IsType.head_ne {s r : List Char} {t : TypeRef} (h : IsType s t r) :
    (trimStart s).head? ≠ some '>' := by
  cases h with
  | unbounded hquestion | upper hquestion | lower hquestion =>
    rw [hquestion.trimStart_eq_cons (by decide)]
    simp
  | named hblanks hname hword =>
    obtain ⟨c, more, heq, hc, -⟩ := isDottedName_iff.mp hname
    rw [heq] at hword
    rw [hword.trimStart_eq hblanks (isBlank_of_isIdentifierStart hc), hword.1]
    rintro ⟨⟩
    exact absurd hc (by decide)

/-- What stands behind a name does not go on with it: array marks may start with a dot, but only
with the first of three. -/
theorem endsName_of_isArguments {s s₁ r : List Char} {ts : List TypeRef} {t t' : TypeRef}
    (hs : ∀ c ∈ s.head?, isIdentifierPart c = false) (harguments : IsArguments s ts s₁)
    (hlayers : IsLayers s₁ t t' r) (hr : Closes (trimStart r)) : EndsName s := by
  refine ⟨hs, ?_⟩
  rintro u rfl
  have htrim : trimStart ('.' :: u) = '.' :: u := rfl
  cases harguments with
  | nil =>
    cases hlayers with
    | nil => exact absurd (congrArg List.head? htrim) (hr.head_ne (by decide) (by decide))
    | brackets hopen =>
      rw [hopen.trimStart_eq_cons (by decide)] at htrim
      exact absurd (List.cons.inj htrim).1 (by decide)
    | @dots _ s₂ _ _ _ hdots =>
      rw [hdots.trimStart_eq_cons (by decide)] at htrim
      exact ⟨s₂, (List.cons.inj htrim).2⟩
  | diamond hopen | list hopen =>
    rw [hopen.trimStart_eq_cons (by decide)] at htrim
    exact absurd (List.cons.inj htrim).1 (by decide)

/-- What a step takes off a text leaves a bound for the rest. -/
private theorem exists_bound {s r : List Char} {bound : Nat} (h : r.length < s.length)
    (hs : s.length < bound) : ∃ bound', bound = bound' + 1 ∧ r.length < bound' :=
  ⟨bound - 1, by omega, by omega⟩

namespace TypeIsRead

variable {s s₁ s₂ s₃ r : List Char} {t t' : TypeRef}

private theorem unbounded (hquestion : Blanks s ('?' :: r)) : TypeIsRead s .wildcard r := by
  intro hr bound hs
  obtain ⟨bound, rfl, -⟩ := exists_bound hquestion.length_lt hs
  rw [readTypeWithin_question hquestion, readWildcardWithin_of_closes hr]

private theorem upper (hquestion : Blanks s ('?' :: s₁)) (hblanks : Blanks s₁ s₂)
    (hword : IsWord ['e', 'x', 't', 'e', 'n', 'd', 's'] s₂ s₃) (h : TypeIsRead s₃ t r) :
    TypeIsRead s t r := by
  intro hr bound hs
  obtain ⟨bound, rfl, hs₁⟩ := exists_bound hquestion.length_lt hs
  obtain ⟨bound, rfl, hs₃⟩ := exists_bound (hword.length_lt.trans_le hblanks.length_le) hs₁
  rw [readTypeWithin_question hquestion, readWildcardWithin_extends hblanks hword,
    h hr bound hs₃]

private theorem lower (hquestion : Blanks s ('?' :: s₁)) (hblanks : Blanks s₁ s₂)
    (hword : IsWord ['s', 'u', 'p', 'e', 'r'] s₂ s₃) (h : TypeIsRead s₃ t r) :
    TypeIsRead s .wildcard r := by
  intro hr bound hs
  obtain ⟨bound, rfl, hs₁⟩ := exists_bound hquestion.length_lt hs
  obtain ⟨bound, rfl, hs₃⟩ := exists_bound (hword.length_lt.trans_le hblanks.length_le) hs₁
  rw [readTypeWithin_question hquestion, readWildcardWithin_super hblanks hword,
    h hr bound hs₃]
  rfl

private theorem named {name : String} {arguments : List TypeRef} (hblanks : Blanks s s₁)
    (hname : IsDottedName name) (hword : IsWord name.toList s₁ s₂)
    (harguments : IsArguments s₂ arguments s₃) (hread : ArgumentsAreRead s₂ arguments s₃)
    (ht : IsNamed name arguments t) (hlayers : IsLayers s₃ t t' r) : TypeIsRead s t' r := by
  intro hr bound hs
  have hlength : s₂.length < s.length := by
    obtain ⟨c, more, heq, -, -⟩ := isDottedName_iff.mp hname
    rw [heq] at hword
    exact hword.length_lt.trans_le hblanks.length_le
  obtain ⟨bound, rfl, hs₂⟩ := exists_bound hlength hs
  obtain ⟨r', hread, hr'⟩ := hread (hlayers.head_ne hr) bound hs₂
  obtain ⟨layers, hdimensions, rfl⟩ := hlayers.readDimensions_eq hr
  -- The blanks in front of the array marks may be taken with the arguments or with the marks.
  rw [(Blanks.trimStart s₃).readDimensions_eq, ← hr', ← (Blanks.trimStart r').readDimensions_eq]
    at hdimensions
  rw [hblanks.readTypeWithin_eq, hword.1, ht.eq_ofName]
  exact readTypeWithin_name hname (endsName_of_isArguments hword.2 harguments hlayers hr) hread
    hdimensions

/-- A type and the arguments behind it are read one after the other. -/
private theorem cons {ts : List TypeRef} (h : TypeIsRead s t s₁) (hts : IsMoreArguments s₁ ts r)
    (hmore : MoreArgumentsAreRead s₁ ts r) {bound : Nat} (hs : s.length < bound)
    (hs₁ : s₁.length < bound) :
    (do
      let (argument, r) ← readTypeWithin bound s
      let (more, r) ← readMoreArgumentsWithin bound (trimStart r)
      return (argument :: more, r)) = Except.ok (t :: ts, r) := by
  rw [h hts.closes bound hs]
  simp only [bind, Except.bind]
  rw [← (Blanks.trimStart s₁).trimStart_eq, hmore bound hs₁]
  rfl

end TypeIsRead

namespace ArgumentsAreRead

variable {s s₁ s₂ r : List Char}

private theorem nil : ArgumentsAreRead s [] s :=
  fun hs bound _ => ⟨trimStart s, readArgumentsWithin_of_ne hs bound,
    ((Blanks.trimStart s).trimStart_eq).symm⟩

private theorem diamond (hopen : Blanks s ('<' :: s₁)) (hclose : Blanks s₁ ('>' :: r)) :
    ArgumentsAreRead s [] r := by
  intro _ bound hs
  obtain ⟨bound, rfl, -⟩ := exists_bound hopen.length_lt hs
  refine ⟨r, ?_, rfl⟩
  rw [hopen.trimStart_eq_cons (by decide), readArgumentsWithin,
    hclose.trimStart_eq_cons (by decide)]
  rfl

private theorem list {t : TypeRef} {ts : List TypeRef} (hopen : Blanks s ('<' :: s₁))
    (ht : IsType s₁ t s₂) (hts : IsMoreArguments s₂ ts r) (hfirst : TypeIsRead s₁ t s₂)
    (hmore : MoreArgumentsAreRead s₂ ts r) : ArgumentsAreRead s (t :: ts) r := by
  intro _ bound hs
  obtain ⟨bound, rfl, hs₁⟩ := exists_bound hopen.length_lt hs
  refine ⟨r, ?_, rfl⟩
  rw [hopen.trimStart_eq_cons (by decide), readArgumentsWithin]
  -- The closing bracket of `<>` is looked for first, but no type starts with it.
  split
  · next heq => exact absurd (by rw [heq]; rfl) ht.head_ne
  · rw [← (Blanks.trimStart s₁).readTypeWithin_eq]
    exact hfirst.cons hts hmore hs₁ (ht.length_le.trans_lt hs₁)

end ArgumentsAreRead

namespace MoreArgumentsAreRead

variable {s s₁ s₂ r : List Char}

private theorem nil (hclose : Blanks s ('>' :: r)) : MoreArgumentsAreRead s [] r := by
  intro bound hs
  obtain ⟨bound, rfl, -⟩ := exists_bound hclose.length_lt hs
  rw [hclose.trimStart_eq_cons (by decide), readMoreArgumentsWithin]

private theorem cons {t : TypeRef} {ts : List TypeRef} (hcomma : Blanks s (',' :: s₁))
    (ht : IsType s₁ t s₂) (hts : IsMoreArguments s₂ ts r) (hfirst : TypeIsRead s₁ t s₂)
    (hmore : MoreArgumentsAreRead s₂ ts r) : MoreArgumentsAreRead s (t :: ts) r := by
  intro bound hs
  obtain ⟨bound, rfl, hs₁⟩ := exists_bound hcomma.length_lt hs
  rw [hcomma.trimStart_eq_cons (by decide), readMoreArgumentsWithin]
  exact hfirst.cons hts hmore hs₁ (ht.length_le.trans_lt hs₁)

end MoreArgumentsAreRead

mutual

theorem IsType.isRead {s r : List Char} {t : TypeRef} : IsType s t r → TypeIsRead s t r
  | .unbounded hquestion _ => .unbounded hquestion
  | .upper hquestion hblanks hword h => .upper hquestion hblanks hword h.isRead
  | .lower hquestion hblanks hword h => .lower hquestion hblanks hword h.isRead
  | .named hblanks hname hword harguments ht hlayers =>
    .named hblanks hname hword harguments harguments.areRead ht hlayers

theorem IsArguments.areRead {s r : List Char} {ts : List TypeRef} :
    IsArguments s ts r → ArgumentsAreRead s ts r
  | .nil => .nil
  | .diamond hopen hclose => .diamond hopen hclose
  | .list hopen ht hts => .list hopen ht hts ht.isRead hts.areRead

theorem IsMoreArguments.areRead {s r : List Char} {ts : List TypeRef} :
    IsMoreArguments s ts r → MoreArgumentsAreRead s ts r
  | .nil hclose => .nil hclose
  | .cons hcomma ht hts => .cons hcomma ht hts ht.isRead hts.areRead

end

/-! ### Deriving what is read -/

/-- In front of the end of an argument, a `?` alone is a type. -/
private theorem IsType.of_closes {s : List Char} (h : Closes (trimStart s)) :
    IsType ('?' :: s) .wildcard s := by
  refine .unbounded (.refl _) fun c r hc => ?_
  -- An identifier would be the next thing behind the blanks, where the end of an argument is.
  cases hstart : isIdentifierStart c with
  | false => rfl
  | true =>
    rw [hc.trimStart_eq_cons (isBlank_of_isIdentifierStart hstart)] at h
    rcases h c rfl with rfl | rfl <;> exact absurd hstart (by decide)

/-- A type is taken off a text: it is there in front of the rest and of any other text where an
argument ends. Blanks behind it may be taken as well. -/
def TypeIsTaken (s : List Char) (t : TypeRef) (r : List Char) : Prop :=
  ∃ p, s = p ++ r ∧ ∀ v, Closes (trimStart v) → ∃ u, IsType (p ++ v) t u ∧ Blanks u v

/-- The arguments of a name are taken off a text, perhaps with the blanks behind them. -/
def ArgumentsAreTaken (s : List Char) (ts : List TypeRef) (r : List Char) : Prop :=
  ∃ p, s = p ++ r ∧ ∀ v, ∃ u, IsArguments (p ++ v) ts u ∧ Blanks u v

/-- The arguments behind the first one are taken off a text. -/
def MoreArgumentsAreTaken (s : List Char) (ts : List TypeRef) (r : List Char) : Prop :=
  ∃ p, s = p ++ r ∧ ∀ v, IsMoreArguments (p ++ v) ts v

namespace TypeIsTaken

variable {s s' r word : List Char} {t : TypeRef}

private theorem blanks (hs : Blanks s s') (h : TypeIsTaken s' t r) : TypeIsTaken s t r := by
  obtain ⟨w, rfl, hw⟩ := hs
  obtain ⟨p, rfl, hp⟩ := h
  refine ⟨w ++ p, (List.append_assoc ..).symm, fun v hv => ?_⟩
  obtain ⟨u, ht, hu⟩ := hp v hv
  rw [List.append_assoc]
  exact ⟨u, ht.blanks ⟨w, rfl, hw⟩, hu⟩

private theorem unbounded (s : List Char) : TypeIsTaken ('?' :: s) .wildcard (trimStart s) := by
  obtain ⟨w, hs, hw⟩ := Blanks.trimStart s
  refine ⟨'?' :: w, congrArg _ hs, fun v hv => ?_⟩
  have hblanks : Blanks (w ++ v) v := ⟨w, rfl, hw⟩
  rw [← hblanks.trimStart_eq] at hv
  exact ⟨w ++ v, .of_closes hv, hblanks⟩

/-- A type behind a word is behind that word in front of other texts as well. -/
private theorem behindWord (hblanks : Blanks s s') {s₁ : List Char} (hword : IsWord word s' s₁)
    (h : TypeIsTaken s₁ t r) :
    ∃ p, s = p ++ r ∧ ∀ v, Closes (trimStart v) →
      ∃ s' s₁ u, Blanks (p ++ v) s' ∧ IsWord word s' s₁ ∧ IsType s₁ t u ∧ Blanks u v := by
  obtain ⟨w, rfl, hw⟩ := hblanks
  obtain ⟨rfl, hends⟩ := hword
  obtain ⟨p, rfl, hp⟩ := h
  refine ⟨w ++ (word ++ p), by simp, fun v hv => ?_⟩
  obtain ⟨u, ht, hu⟩ := hp v hv
  refine ⟨word ++ (p ++ v), p ++ v, u, ⟨w, by simp, hw⟩, ⟨rfl, ?_⟩, ht, hu⟩
  -- The word ends with the type behind it, or with the end of an argument.
  cases p with
  | nil => exact hv.not_isIdentifierPart
  | cons c p => exact hends

private theorem upper (hblanks : Blanks s s') {s₁ : List Char}
    (hword : IsWord ['e', 'x', 't', 'e', 'n', 'd', 's'] s' s₁) (h : TypeIsTaken s₁ t r) :
    TypeIsTaken ('?' :: s) t r := by
  obtain ⟨p, rfl, hp⟩ := h.behindWord hblanks hword
  refine ⟨'?' :: p, rfl, fun v hv => ?_⟩
  obtain ⟨s', s₁, u, hblanks, hword, ht, hu⟩ := hp v hv
  exact ⟨u, .upper (.refl _) hblanks hword ht, hu⟩

private theorem lower (hblanks : Blanks s s') {s₁ : List Char}
    (hword : IsWord ['s', 'u', 'p', 'e', 'r'] s' s₁) (h : TypeIsTaken s₁ t r) :
    TypeIsTaken ('?' :: s) .wildcard r := by
  obtain ⟨p, rfl, hp⟩ := h.behindWord hblanks hword
  refine ⟨'?' :: p, rfl, fun v hv => ?_⟩
  obtain ⟨s', s₁, u, hblanks, hword, ht, hu⟩ := hp v hv
  exact ⟨u, .lower (.refl _) hblanks hword ht, hu⟩

end TypeIsTaken

/-- What the four readers of a bound have in common: what they take off a text is derivable. -/
structure ReadsDerivable (bound : Nat) : Prop where
  /-- The types that are read. -/
  type : ∀ {s t r}, readTypeWithin bound s = .ok (t, r) → TypeIsTaken s t r
  /-- The types that are read behind a `?`. -/
  wildcard : ∀ {s t r}, readWildcardWithin bound (trimStart s) = .ok (t, r) →
    TypeIsTaken ('?' :: s) t r
  /-- The arguments of a name. -/
  arguments : ∀ {s ts r}, readArgumentsWithin bound (trimStart s) = .ok (ts, r) →
    ArgumentsAreTaken s ts r
  /-- The arguments behind the first one. -/
  moreArguments : ∀ {s ts r}, readMoreArgumentsWithin bound s = .ok (ts, r) →
    MoreArgumentsAreTaken s ts r

namespace ReadsDerivable

variable {bound : Nat} {s r : List Char} {t : TypeRef} {ts : List TypeRef}

private theorem type_succ (h : ReadsDerivable bound)
    (hread : readTypeWithin (bound + 1) s = .ok (t, r)) : TypeIsTaken s t r := by
  have hs := Blanks.trimStart s
  unfold readTypeWithin at hread
  split at hread
  · cases hread
  · cases hread
  · next heq htrim =>
    cases heq
    exact (h.wildcard hread).blanks (htrim ▸ hs)
  · next c s₁ _ heq htrim =>
    cases heq
    split at hread
    · next hc =>
      obtain ⟨⟨more, s₂⟩, hmore, hread⟩ := exists_of_bind_eq_ok hread
      obtain ⟨⟨arguments, s₃⟩, harguments, hread⟩ := exists_of_bind_eq_ok hread
      obtain ⟨⟨layers, r⟩, hlayers, hread⟩ := exists_of_bind_eq_ok hread
      cases hread
      have hrest := nameRest_of_readNameRest hmore
      obtain ⟨rfl, -⟩ := eq_append_of_readNameRest hmore
      obtain ⟨p₁, rfl, hp₁⟩ := h.arguments harguments
      obtain ⟨p₂, rfl, hp₂⟩ := marks_of_readDimensions hlayers
      refine .blanks (htrim ▸ hs) ⟨c :: (more ++ (p₁ ++ p₂)), by simp, fun v hv => ?_⟩
      obtain ⟨u, harguments, hu⟩ := hp₁ (p₂ ++ v)
      -- Blanks behind the arguments belong to the array marks, or are left if there are none.
      obtain ⟨u', hlayers, hu'⟩ := hp₂ (ofName _ arguments) v
      obtain ⟨u', hlayers, hu'⟩ := hlayers.blanks hu hu'
      have hends := hu'.not_isIdentifierPart hv.not_isIdentifierPart
      exact ⟨u', by simpa using IsType.ofName hc hrest harguments hlayers hends, hu'⟩
    · cases hread

private theorem wildcard_succ (h : ReadsDerivable bound)
    (hread : readWildcardWithin (bound + 1) (trimStart s) = .ok (t, r)) :
    TypeIsTaken ('?' :: s) t r := by
  have hword := isWord_takeWhile (trimStart s)
  unfold readWildcardWithin at hread
  split at hread
  · next heq =>
    rw [heq] at hword
    exact (h.type hread).upper (.trimStart s) hword
  · split at hread
    · next heq =>
      rw [heq] at hword
      obtain ⟨⟨lower, r⟩, hlower, hread⟩ := exists_of_bind_eq_ok hread
      cases hread
      exact (h.type hlower).lower (.trimStart s) hword
    · cases hread
      exact .unbounded s

private theorem cons (h : ReadsDerivable bound) (hread : (do
      let (argument, r) ← readTypeWithin bound s
      let (more, r) ← readMoreArgumentsWithin bound (trimStart r)
      return (argument :: more, r)) = Except.ok (ts, r)) :
    ∃ t ts' p, ts = t :: ts' ∧ s = p ++ r ∧
      ∀ v, ∃ s', IsType (p ++ v) t s' ∧ IsMoreArguments s' ts' v := by
  obtain ⟨⟨t, s₁⟩, hfirst, hread⟩ := exists_of_bind_eq_ok hread
  obtain ⟨⟨ts', r⟩, hmore, hread⟩ := exists_of_bind_eq_ok hread
  cases hread
  obtain ⟨p₁, rfl, hp₁⟩ := h.type hfirst
  obtain ⟨p₂, hrest, hp₂⟩ := h.moreArguments hmore
  obtain ⟨w, hs₁, hw⟩ := Blanks.trimStart s₁
  refine ⟨t, ts', p₁ ++ (w ++ p₂), rfl, by simpa [hrest] using hs₁, fun v => ?_⟩
  have hts : IsMoreArguments (w ++ (p₂ ++ v)) ts' v := (hp₂ v).blanks ⟨w, rfl, hw⟩
  obtain ⟨s', ht, hs'⟩ := hp₁ _ hts.closes
  exact ⟨s', by simpa using ht, hts.blanks hs'⟩

private theorem arguments_succ (h : ReadsDerivable bound)
    (hread : readArgumentsWithin (bound + 1) (trimStart s) = .ok (ts, r)) :
    ArgumentsAreTaken s ts r := by
  obtain ⟨w, hs, hw⟩ := Blanks.trimStart s
  have hblanks (v : List Char) : Blanks (w ++ v) v := ⟨w, rfl, hw⟩
  unfold readArgumentsWithin at hread
  split at hread
  · next s₁ heq htrim =>
    cases heq
    obtain ⟨w₁, hs₁, hw₁⟩ := Blanks.trimStart s₁
    have hblanks₁ (v : List Char) : Blanks (w₁ ++ v) v := ⟨w₁, rfl, hw₁⟩
    rw [htrim, hs₁] at hs
    split at hread
    · next htrim =>
      cases hread
      refine ⟨w ++ '<' :: (w₁ ++ ['>']), by simpa [htrim] using hs, fun v => ⟨v, ?_, .refl v⟩⟩
      exact .diamond (by simpa using hblanks _) (hblanks₁ _)
    · obtain ⟨t, ts, p, rfl, hp, hts⟩ := h.cons hread
      refine ⟨w ++ '<' :: (w₁ ++ p), by simpa [hp] using hs, fun v => ⟨v, ?_, .refl v⟩⟩
      obtain ⟨s', ht, hts⟩ := hts v
      exact .list (by simpa using hblanks _) (ht.blanks (hblanks₁ _)) hts
  · cases hread
    exact ⟨w, hs, fun v => ⟨w ++ v, .nil, hblanks v⟩⟩

private theorem moreArguments_succ (h : ReadsDerivable bound)
    (hread : readMoreArgumentsWithin (bound + 1) s = .ok (ts, r)) :
    MoreArgumentsAreTaken s ts r := by
  unfold readMoreArgumentsWithin at hread
  split at hread
  · cases hread
  · cases hread
    exact ⟨['>'], rfl, fun v => .nil (.refl _)⟩
  · next heq =>
    cases heq
    obtain ⟨t, ts, p, rfl, rfl, hts⟩ := h.cons hread
    refine ⟨',' :: p, rfl, fun v => ?_⟩
    obtain ⟨s', ht, hts⟩ := hts v
    exact .cons (.refl _) ht hts
  · cases hread

end ReadsDerivable

/-- Whatever is read in front of the end of an argument is derivable. -/
theorem readsDerivable (bound : Nat) : ReadsDerivable bound := by
  induction bound with
  | zero =>
    constructor
    · intro s t r hread
      rw [readTypeWithin] at hread
      cases hread
    · intro s t r hread
      rw [readWildcardWithin] at hread
      cases hread
      exact .unbounded s
    · intro s ts r hread
      unfold readArgumentsWithin at hread
      cases hread
      obtain ⟨w, hs, hw⟩ := Blanks.trimStart s
      exact ⟨w, hs, fun v => ⟨w ++ v, .nil, w, rfl, hw⟩⟩
    · intro s ts r hread
      rw [readMoreArgumentsWithin] at hread
      cases hread
  | succ bound ih =>
    exact ⟨ih.type_succ, ih.wildcard_succ, ih.arguments_succ, ih.moreArguments_succ⟩

/-! ### Whole texts -/

theorem blanks_nil_iff {s : List Char} : Blanks s [] ↔ ∀ c ∈ s, isBlank c = true := by
  simp [Blanks]

theorem readType_of_isType {s r : List Char} {t : TypeRef} (h : IsType s t r) (hr : Blanks r []) :
    readType s = .ok (t, []) := by
  have htrim : trimStart r = [] := hr.trimStart_eq
  have hread := h.isRead (by simp [htrim, Closes]) (s.length + 1) (Nat.lt_succ_self _)
  rwa [htrim] at hread

theorem isType_of_readType {s r : List Char} {t : TypeRef} (h : readType s = .ok (t, r))
    (hr : trimStart r = []) : ∃ r', IsType s t r' ∧ Blanks r' [] := by
  obtain ⟨p, rfl, hp⟩ := (readsDerivable _).type h
  obtain ⟨r', ht, hr'⟩ := hp r (by simp [hr, Closes])
  exact ⟨r', ht, hr'.trans (hr ▸ .trimStart r)⟩

theorem readType_of_blanks {s : List Char} (h : Blanks s []) : readType s = .error [] := by
  rw [readType, h.readTypeWithin_eq]
  rfl

/-- **Type text and its grammar.** A text is read as a type exactly when the grammar derives it with
the type as its tree, up to blanks at the end. -/
theorem parse_eq_ok_iff_isType (text : String) (t : TypeRef) :
    parse text = .ok t ↔ ∃ r, IsType text.toList t r ∧ ∀ c ∈ r, isBlank c = true := by
  simp only [← blanks_nil_iff]
  constructor
  · intro h
    unfold parse at h
    split at h
    · cases h
    · split at h
      · cases h
      · next hread =>
        split at h
        · next hr =>
          cases h
          exact isType_of_readType hread hr
        · cases h
  · rintro ⟨r, ht, hr⟩
    have hread := readType_of_isType ht hr
    have hblanks : allBlank text.toList = false := by
      rw [← Bool.not_eq_true, allBlank, List.all_eq_true, ← blanks_nil_iff]
      intro hs
      rw [readType_of_blanks hs] at hread
      cases hread
    rw [parse, hblanks, hread]
    rfl

end HandlerDocs.TypeRef
