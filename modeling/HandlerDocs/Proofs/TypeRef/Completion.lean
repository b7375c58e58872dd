import HandlerDocs.Proofs.TypeRef.Acceptance

/-!
# Where reading gets stuck

Reading a type gets stuck at the first character that does not fit, so what stands in front of it
can always be completed to a text that is accepted. The completions are short: an `A` where a type
or a word of a name is missing, and whatever closes the brackets that are open. That they complete
the text is derived in the grammar (`IsStuck`), and not by reading the completed text again: what is
cut off could have changed where a word or a name ends.

* `isStuck_of_readNameRest`, `isStuck_of_readDimensions` — inside of names and array marks.
* `getsStuck` — inside of types and arguments, by induction on the bound of the readers.
* `parse_error_tight` — the failures of whole texts.
-/

namespace HandlerDocs

/-- Readings in a row fail when the first one fails, or the second one behind it. -/
theorem error_or_of_bind_eq_error {ε α β : Type} {reading : Except ε α} {next : α → Except ε β}
    {e : ε} (h : (reading >>= next) = .error e) :
    reading = .error e ∨ ∃ a, reading = .ok a ∧ next a = .error e := by
  cases reading with
  | error e' =>
    cases h
    exact .inl rfl
  | ok a => exact .inr ⟨a, rfl, h⟩

namespace TypeRef

open Text

/-! ### Completions -/

/-- Reading a text stops at a rest, and some more text in place of the rest completes what was read
to what a relation of the grammar derives, in front of whatever ends an argument. -/
def IsStuck {α : Type} (Derives : List Char → α → List Char → Prop) (s r : List Char) : Prop :=
  ∃ p w a, s = p ++ r ∧ w ≠ [] ∧ ∀ v, Closes v → Derives (p ++ (w ++ v)) a v

/-- What may follow the first character of a name. -/
def IsNameRest (s more r : List Char) : Prop :=
  s = more ++ r ∧ NameRest more

/-- A type that does not prolong a word in front of it. -/
def IsTypeBehindWord (s : List Char) (t : TypeRef) (r : List Char) : Prop :=
  IsType s t r ∧ ∀ c ∈ s.head?, isIdentifierPart c = false

/-- Arguments behind an opening bracket, at least one. -/
def IsSomeArguments (s : List Char) (ts : TypeRef × List TypeRef) (r : List Char) : Prop :=
  ∃ s', IsType s ts.1 s' ∧ IsMoreArguments s' ts.2 r

/-- Array marks, at least one, from inside of a bracket (`isOpen`) or not. -/
def IsSomeLayers (isOpen : Bool) (t : TypeRef) (s : List Char) (t' : TypeRef) (r : List Char) :
    Prop :=
  match isOpen with
  | false => IsLayers s t t' r ∧ r.length < s.length
  | true => ∃ s', Blanks s (']' :: s') ∧ IsLayers s' (.array t) t' r

/-- A letter is a type. -/
private theorem isType_letter {v : List Char} (hv : Closes v) :
    IsType ('A' :: v) (ofName "A" []) v := by
  have hstart : isIdentifierStart 'A' = true := by decide
  exact .ofName hstart NameRest.nil .nil .nil hv.stops.endsName.1

namespace IsStuck

variable {α β : Type} {Derives : List Char → α → List Char → Prop}
  {Derives' : List Char → β → List Char → Prop} {s s' r : List Char}

/-- What was read in front of a text and what closes it behind are put around its completion. -/
private theorem imp_closing (tree : α → β) (q close : List Char)
    (hclose : ∀ v, Closes v → Closes (close ++ v))
    (himp : ∀ s a v, Closes v → Derives s a (close ++ v) → Derives' (q ++ s) (tree a) v)
    (h : IsStuck Derives s r) : IsStuck Derives' (q ++ s) r := by
  obtain ⟨p, w, a, rfl, hw, hp⟩ := h
  refine ⟨q ++ p, w ++ close, tree a, by simp, by simp [hw], fun v hv => ?_⟩
  have hderives := himp _ a v hv (hp (close ++ v) (hclose v hv))
  simpa using hderives

/-- What was read in front of a text is put in front of its completion. -/
private theorem imp (tree : α → β) (q : List Char)
    (himp : ∀ s a v, Closes v → Derives s a v → Derives' (q ++ s) (tree a) v)
    (h : IsStuck Derives s r) : IsStuck Derives' (q ++ s) r :=
  h.imp_closing tree q [] (fun _ hv => hv) himp

/-- Where a type is missing, a letter completes the text. -/
private theorem type (r : List Char) : IsStuck IsType r r :=
  ⟨[], ['A'], _, rfl, by simp, fun _ hv => isType_letter hv⟩

/-- Where arguments end or go on, a bracket completes the text. -/
private theorem moreArguments (r : List Char) : IsStuck IsMoreArguments r r :=
  ⟨[], ['>'], [], rfl, by simp, fun _ _ => .nil (.refl _)⟩

private theorem blanks (hs : Blanks s s') (h : IsStuck IsType s' r) : IsStuck IsType s r := by
  obtain ⟨w, rfl, hw⟩ := hs
  exact h.imp id w fun _ _ _ _ ht => ht.blanks ⟨w, rfl, hw⟩

/-- Behind a word, a type that is missing is completed by a blank and a letter. -/
private theorem behindWord (hs : ∀ c ∈ s.head?, isIdentifierPart c = false)
    (h : IsStuck IsType s r) : IsStuck IsTypeBehindWord s r := by
  obtain ⟨p, w, t, rfl, hw, hp⟩ := h
  cases p with
  | nil =>
    refine ⟨[], ' ' :: w, t, rfl, by simp, fun v hv => ⟨?_, by simp; decide⟩⟩
    exact (hp v hv).blanks ((Blanks.refl _).cons (by decide))
  | cons c p => exact ⟨c :: p, w, t, rfl, hw, fun v hv => ⟨hp v hv, hs⟩⟩

/-- The bound of a wildcard, behind the word that announces it. -/
private theorem bound {word s₁ : List Char} (tree : TypeRef → TypeRef)
    (himp : ∀ s s' s₁ t v, Blanks s s' → IsWord word s' s₁ → IsType s₁ t v →
      IsType ('?' :: s) (tree t) v)
    (hblanks : Blanks s s') (hword : IsWord word s' s₁) (h : IsStuck IsType s₁ r) :
    IsStuck IsType ('?' :: s) r := by
  obtain ⟨w, rfl, hw⟩ := hblanks
  obtain ⟨rfl, hends⟩ := hword
  rw [← List.append_assoc, ← List.cons_append]
  refine (h.behindWord hends).imp tree ('?' :: (w ++ word)) fun s t v _ ht => ?_
  rw [List.cons_append, List.append_assoc]
  exact himp _ _ _ t v ⟨w, rfl, hw⟩ ⟨rfl, ht.2⟩ ht.1

end IsStuck

/-! ### Names and array marks -/

/-- A name gets stuck where a word is missing. -/
theorem isStuck_of_readNameRest {s r : List Char} (h : readNameRest s = .error r) :
    IsStuck IsNameRest s r := by
  -- What was read of a name in front is there in the completed text as well.
  have step {q s r : List Char} (hq : ∀ more, NameRest more → NameRest (q ++ more))
      (h : IsStuck IsNameRest s r) : IsStuck IsNameRest (q ++ s) r :=
    h.imp (q ++ ·) q fun s more v _ hmore => ⟨by rw [hmore.1]; simp, hq more hmore.2⟩
  have letter : NameRest ['.', 'A'] := .dot (by decide) .nil
  fun_induction readNameRest s generalizing r with
  | case1 | case6 | case7 => cases h
  | case2 c s _ hc ih =>
    obtain h | ⟨_, -, h⟩ := error_or_of_bind_eq_error h
    · exact step (q := ['.', c]) (fun _ hmore => .dot hc hmore) (ih h)
    · cases h
  | case3 c s | case4 =>
    cases h
    exact ⟨['.'], ['A'], _, rfl, by simp, fun v _ => ⟨rfl, letter⟩⟩
  | case5 c s _ _ _ hc ih =>
    obtain h | ⟨_, -, h⟩ := error_or_of_bind_eq_error h
    · exact step (q := [c]) (fun _ hmore => .part hc hmore) (ih h)
    · cases h

/-- Array marks get stuck inside of a bracket. -/
theorem isStuck_of_readDimensions {isOpen : Bool} {s r : List Char}
    (h : readDimensions isOpen s = .error r) (t : TypeRef) :
    IsStuck (IsSomeLayers isOpen t) s r := by
  have close (r : List Char) (t : TypeRef) : IsStuck (IsSomeLayers true t) r r :=
    ⟨[], [']'], _, rfl, by simp, fun v _ => ⟨v, .refl _, .nil⟩⟩
  fun_induction readDimensions isOpen s generalizing r t with
  | case1 | case3 | case7 =>
    cases h
    exact close _ t
  | case2 | case9 => cases h
  | case4 isOpen s hopen ih =>
    obtain rfl : isOpen = false := by simpa using hopen
    obtain h | ⟨_, -, h⟩ := error_or_of_bind_eq_error h
    · refine (ih h (.array t)).imp id ['.', '.', '.'] fun s t' v _ hlayers => ?_
      obtain ⟨hlayers, hlength⟩ := hlayers
      refine ⟨.dots (.refl _) hlayers, ?_⟩
      rw [List.length_append]
      omega
    · cases h
  | case5 isOpen c s _ hc ih =>
    refine (ih h t).imp id [c] fun s t' v _ hlayers => ?_
    have hblanks : Blanks (c :: s) s := (Blanks.refl s).cons hc
    cases isOpen with
    | false =>
      obtain ⟨hlayers, hlength⟩ := hlayers
      exact ⟨hlayers.blanks_of_length_lt hblanks hlength, hlength.trans (Nat.lt_succ_self _)⟩
    | true =>
      obtain ⟨s', hend, hlayers⟩ := hlayers
      exact ⟨s', hend.cons hc, hlayers⟩
  | case6 s _ _ ih =>
    obtain h | ⟨_, -, h⟩ := error_or_of_bind_eq_error h
    · exact (ih h (.array t)).imp id [']'] fun s t' v _ hlayers =>
        ⟨s, .refl _, hlayers.1⟩
    · cases h
  | case8 isOpen s hopen _ _ ih =>
    obtain rfl : isOpen = false := by simpa using hopen
    refine (ih h t).imp id ['['] fun s t' v _ hlayers => ?_
    obtain ⟨s', hend, hlayers⟩ := hlayers
    have hmarks : IsLayers ('[' :: s) t t' v := .brackets (.refl _) hend hlayers
    exact ⟨hmarks, (hlayers.length_le.trans_lt hend.length_lt).trans (Nat.lt_succ_self _)⟩

/-! ### Types and arguments -/

/-- What the four readers of a bound have in common: where they fail, the text is stuck. -/
structure GetsStuck (bound : Nat) : Prop where
  /-- Failures of reading a type. -/
  type : ∀ {s r}, readTypeWithin bound s = .error r → s.length < bound → IsStuck IsType s r
  /-- Failures behind a `?`. -/
  wildcard : ∀ {s r}, readWildcardWithin bound (trimStart s) = .error r → s.length < bound →
    IsStuck IsType ('?' :: s) r
  /-- Failures of reading the arguments of a name. -/
  arguments : ∀ {s r}, readArgumentsWithin bound (trimStart s) = .error r → s.length < bound →
    IsStuck IsArguments s r
  /-- Failures of reading the arguments behind the first one. -/
  moreArguments : ∀ {s r}, readMoreArgumentsWithin bound s = .error r → s.length < bound →
    IsStuck IsMoreArguments s r

namespace GetsStuck

variable {bound : Nat} {s r : List Char}

/-- Behind the first character of a name, the name is stuck, its arguments or the array marks. -/
private theorem name (h : GetsStuck bound) {c : Char} (hc : isIdentifierStart c = true)
    (hread : (do
      let (more, r) ← readNameRest s
      let (arguments, r) ← readArgumentsWithin bound (trimStart r)
      let (layers, r) ← readDimensions false r
      return ((ofName (String.ofList (c :: more)) arguments).arrayed layers, r)) = Except.error r)
    (hs : s.length < bound) : IsStuck IsType (c :: s) r := by
  obtain hname | ⟨⟨more, s₁⟩, hmore, hbehind⟩ := error_or_of_bind_eq_error hread
  · refine (isStuck_of_readNameRest hname).imp
      (fun more => ofName (String.ofList (c :: more)) []) [c] fun s more v hv hmore => ?_
    rw [List.singleton_append, hmore.1]
    exact .ofName hc hmore.2 .nil .nil hv.stops.endsName.1
  have hrest := nameRest_of_readNameRest hmore
  obtain ⟨rfl, -⟩ := eq_append_of_readNameRest hmore
  rw [List.length_append] at hs
  obtain harguments | ⟨⟨ts, s₂⟩, harguments, hbehind⟩ := error_or_of_bind_eq_error hbehind
  · exact (h.arguments harguments (by omega)).imp (ofName (String.ofList (c :: more))) (c :: more)
      fun s ts v hv hts => .ofName hc hrest hts .nil hv.stops.endsName.1
  obtain hlayers | ⟨_, -, hbehind⟩ := error_or_of_bind_eq_error hbehind
  · obtain ⟨p, rfl, hp⟩ := (readsDerivable _).arguments harguments
    have hstuck := isStuck_of_readDimensions hlayers (ofName (String.ofList (c :: more)) ts)
    rw [← List.append_assoc, ← List.cons_append]
    refine hstuck.imp id (c :: (more ++ p)) fun s t v hv hmarks => ?_
    -- As there are array marks, blanks behind the arguments belong to them.
    obtain ⟨u, hts, hu⟩ := hp s
    rw [List.cons_append, List.append_assoc]
    have hmarks : IsLayers u _ t v := hmarks.1.blanks_of_length_lt hu hmarks.2
    exact .ofName hc hrest hts hmarks hv.stops.endsName.1
  · cases hbehind

private theorem type_succ (h : GetsStuck bound)
    (hread : readTypeWithin (bound + 1) s = .error r) (hs : s.length < bound + 1) :
    IsStuck IsType s r := by
  have hblanks := Blanks.trimStart s
  have hlength := hblanks.length_le
  refine .blanks hblanks ?_
  unfold readTypeWithin at hread
  split at hread
  · next heq => cases heq
  · next htrim _ =>
    cases hread
    rw [htrim]
    exact .type []
  · next s₁ heq htrim =>
    cases heq
    rw [htrim] at hlength ⊢
    rw [List.length_cons] at hlength
    exact h.wildcard hread (by omega)
  · next c s₁ _ heq htrim =>
    cases heq
    rw [htrim] at hlength ⊢
    rw [List.length_cons] at hlength
    split at hread
    · next hc => exact h.name hc hread (by omega)
    · cases hread
      exact .type _

private theorem wildcard_succ (h : GetsStuck bound)
    (hread : readWildcardWithin (bound + 1) (trimStart s) = .error r)
    (hs : s.length < bound + 1) : IsStuck IsType ('?' :: s) r := by
  have hlength := (Blanks.trimStart s).length_le
  have hword := isWord_takeWhile (trimStart s)
  unfold readWildcardWithin at hread
  split at hread
  · next heq =>
    rw [heq] at hword
    have hrest := hword.length_lt
    have hstuck := h.type hread (by omega)
    exact hstuck.bound id (fun _ _ _ _ _ => .upper (.refl _)) (.trimStart s) hword
  · split at hread
    · next heq =>
      rw [heq] at hword
      obtain hread | ⟨_, -, hread⟩ := error_or_of_bind_eq_error hread
      · have hrest := hword.length_lt
        have hstuck := h.type hread (by omega)
        exact hstuck.bound (fun _ => .wildcard) (fun _ _ _ _ _ => .lower (.refl _)) (.trimStart s)
          hword
      · cases hread
    · cases hread

private theorem cons (h : GetsStuck bound) (hread : (do
      let (argument, r) ← readTypeWithin bound s
      let (more, r) ← readMoreArgumentsWithin bound (trimStart r)
      return (argument :: more, r)) = Except.error r) (hs : s.length < bound) :
    IsStuck IsSomeArguments s r := by
  obtain hfirst | ⟨⟨t, s₁⟩, hfirst, hbehind⟩ := error_or_of_bind_eq_error hread
  · refine (h.type hfirst hs).imp_closing (fun t => (t, [])) [] ['>'] ?_
      fun s t v _ ht => ⟨_, ht, .nil (.refl _)⟩
    exact fun v _ => by simp [Closes]
  obtain hmore | ⟨_, -, hbehind⟩ := error_or_of_bind_eq_error hbehind
  · obtain ⟨p, rfl, hp⟩ := (readsDerivable _).type hfirst
    obtain ⟨w, hs₁, hw⟩ := Blanks.trimStart s₁
    have hlength := (Blanks.trimStart s₁).length_le
    rw [List.length_append] at hs
    have hstuck := h.moreArguments hmore (by omega)
    rw [hs₁, ← List.append_assoc]
    refine hstuck.imp (t, ·) (p ++ w) fun s ts v _ hts => ?_
    have hts : IsMoreArguments (w ++ s) ts v := hts.blanks ⟨w, rfl, hw⟩
    obtain ⟨u, ht, hu⟩ := hp _ hts.closes
    exact ⟨u, by simpa using ht, hts.blanks hu⟩
  · cases hbehind

private theorem arguments_succ (h : GetsStuck bound)
    (hread : readArgumentsWithin (bound + 1) (trimStart s) = .error r)
    (hs : s.length < bound + 1) : IsStuck IsArguments s r := by
  obtain ⟨w, hsplit, hw⟩ := Blanks.trimStart s
  unfold readArgumentsWithin at hread
  split at hread
  · next s₁ heq htrim =>
    cases heq
    obtain ⟨w₁, hs₁, hw₁⟩ := Blanks.trimStart s₁
    have hlength := (Blanks.trimStart s₁).length_le
    rw [htrim] at hsplit
    rw [hsplit, List.length_append, List.length_cons] at hs
    split at hread
    · cases hread
    · have hstuck := h.cons hread (by omega)
      rw [hsplit, hs₁, ← List.cons_append, ← List.append_assoc]
      refine hstuck.imp (fun ts => ts.1 :: ts.2) (w ++ '<' :: w₁) fun s ts v _ hts => ?_
      obtain ⟨s', ht, hts⟩ := hts
      rw [List.append_assoc, List.cons_append]
      exact .list ⟨w, rfl, hw⟩ (ht.blanks ⟨w₁, rfl, hw₁⟩) hts
  · cases hread

private theorem moreArguments_succ (h : GetsStuck bound)
    (hread : readMoreArgumentsWithin (bound + 1) s = .error r) (hs : s.length < bound + 1) :
    IsStuck IsMoreArguments s r := by
  unfold readMoreArgumentsWithin at hread
  split at hread
  · next heq => cases heq
  · cases hread
  · next s₁ heq =>
    cases heq
    rw [List.length_cons] at hs
    refine (h.cons hread (by omega)).imp (fun ts => ts.1 :: ts.2) [','] fun s ts v _ hts => ?_
    obtain ⟨s', ht, hts⟩ := hts
    exact .cons (.refl _) ht hts
  · cases hread
    exact .moreArguments _

end GetsStuck

/-- Wherever reading a type fails, the text is stuck. -/
theorem getsStuck (bound : Nat) : GetsStuck bound := by
  induction bound with
  | zero =>
    constructor <;> exact fun _ hs => absurd hs (Nat.not_lt_zero _)
  | succ bound ih =>
    exact ⟨ih.type_succ, ih.wildcard_succ, ih.arguments_succ, ih.moreArguments_succ⟩

/-! ### Whole texts -/

/-- A text is accepted when there is a type at its front and only blanks behind it. -/
private theorem parse_ofList {s r : List Char} {t : TypeRef} (h : IsType s t r)
    (hr : Blanks r []) : parse (String.ofList s) = .ok t := by
  rw [parse_eq_ok_iff_isType, String.toList_ofList]
  exact ⟨r, h, blanks_nil_iff.mp hr⟩

/-- Reading stops in front of a rest, and with some more text in its place the whole is accepted.
Where there is no rest, there has to be more text. -/
def StopsAt (text : String) (r : List Char) : Prop :=
  ∃ p more t, text.toList = p ++ r ∧ (r = [] → more ≠ "") ∧
    parse (String.ofList p ++ more) = .ok t

/-- What is not only blanks and not accepted is reported together with the rest at which reading it
stops. -/
theorem parse_eq_ofRest {text : String} {e : TypeTextError} (h : parse text = .error e)
    (hblank : allBlank text.toList = false) : ∃ r, e = .ofRest text r ∧ StopsAt text r := by
  rw [parse, if_neg (by simp [hblank])] at h
  split at h
  · next r hread =>
    cases h
    obtain ⟨p, w, t, hsplit, hw, hp⟩ := (getsStuck _).type hread (Nat.lt_succ_self _)
    have ht : IsType (p ++ w) t [] := by simpa using hp [] (by simp [Closes])
    refine ⟨r, rfl, p, String.ofList w, t, hsplit, fun _ => by simpa using hw, ?_⟩
    rw [← String.ofList_append]
    exact parse_ofList ht (.refl _)
  · next t r hread =>
    split at h
    · cases h
    · next hrest =>
      cases h
      -- What was read is a type already, with the blanks behind it.
      obtain ⟨p, hsplit, hp⟩ := (readsDerivable _).type hread
      obtain ⟨w, hr, hw⟩ := Blanks.trimStart r
      have hblanks : Blanks w [] := blanks_nil_iff.mpr hw
      have hend : trimStart w = [] := hblanks.trimStart_eq
      obtain ⟨u, ht, hu⟩ := hp w (by simp [hend, Closes])
      refine ⟨_, rfl, p ++ w, "", t, by rw [List.append_assoc, ← hr, hsplit],
        fun hnil => absurd hnil hrest, ?_⟩
      rw [String.append_empty]
      exact parse_ofList ht (hu.trans hblanks)

theorem parse_eq_empty_iff (text : String) :
    parse text = .error .empty ↔ ∀ c ∈ text.toList, isBlank c = true := by
  rw [← List.all_eq_true, ← allBlank]
  refine ⟨fun h => ?_, fun h => by rw [parse, if_pos h]⟩
  by_contra hblank
  obtain ⟨r, hr, -⟩ := parse_eq_ofRest h (Bool.not_eq_true _ ▸ hblank)
  cases r <;> cases hr

/-- **The places of failures.** A text is reported to be empty exactly when it has only blanks. When
a character is reported, then it is the character at the reported offset, and the text in front of
it can be completed to a text that is accepted. When the end is reported, then the text is not
accepted, but it is a beginning of a longer text that is. -/
theorem parse_error_tight (text : String) :
    (parse text = .error .empty ↔ ∀ c ∈ text.toList, isBlank c = true) ∧
    (∀ found offset input, parse text = .error (.unexpected found offset input) →
      input = text ∧ offset < text.toList.length ∧ text.toList[offset]? = some found ∧
      ∃ more t, parse (String.ofList (text.toList.take offset) ++ more) = .ok t) ∧
    ∀ input, parse text = .error (.unexpectedEnd input) →
      input = text ∧ (∀ t, parse text ≠ .ok t) ∧
      ∃ more t, more ≠ "" ∧ parse (text ++ more) = .ok t := by
  have hstops {e : TypeTextError} (h : parse text = .error e) (he : e ≠ .empty) :
      ∃ r, e = .ofRest text r ∧ StopsAt text r := by
    refine parse_eq_ofRest h (Bool.eq_false_iff.mpr fun hblank => he ?_)
    rw [parse, if_pos hblank] at h
    cases h
    rfl
  refine ⟨parse_eq_empty_iff text, fun found offset input h => ?_, fun input h => ?_⟩
  · obtain ⟨r, hr, p, more, t, hsplit, -, haccepted⟩ := hstops h (by simp)
    cases r with
    | nil => cases hr
    | cons c r =>
      rw [TypeTextError.ofRest, TypeTextError.unexpected.injEq] at hr
      obtain ⟨rfl, hoffset, rfl⟩ := hr
      have hlength : offset = p.length := by
        rw [hoffset, hsplit, List.length_append]
        omega
      rw [hsplit, hlength, List.take_left]
      exact ⟨rfl, by simp, by simp, more, t, haccepted⟩
  · obtain ⟨r, hr, p, more, t, hsplit, hmore, haccepted⟩ := hstops h (by simp)
    cases r with
    | nil =>
      rw [TypeTextError.ofRest, TypeTextError.unexpectedEnd.injEq] at hr
      rw [List.append_nil] at hsplit
      rw [← hsplit, String.ofList_toList] at haccepted
      refine ⟨hr, fun t' ht' => ?_, more, t, hmore rfl, haccepted⟩
      rw [h] at ht'
      cases ht'
    | cons c r => cases hr

/-- A second dot in a name, and a bound that is missing. -/
theorem parse_error_tight_dots :
    parse "List<a..b>" = .error (.unexpected '.' 7 "List<a..b>") ∧
      (∃ more t, parse ("List<a." ++ more) = .ok t) ∧
      parse "List<? extends" = .error (.unexpectedEnd "List<? extends") ∧
      ∃ more t, more ≠ "" ∧ parse ("List<? extends" ++ more) = .ok t := by
  have hdots : parse "List<a..b>" = .error (.unexpected '.' 7 "List<a..b>") := by decide +kernel
  have hend : parse "List<? extends" = .error (.unexpectedEnd "List<? extends") := by
    decide +kernel
  refine ⟨hdots, ?_, hend, ((parse_error_tight "List<? extends").2.2 _ hend).2.2⟩
  exact ((parse_error_tight "List<a..b>").2.1 _ _ _ hdots).2.2.2

end TypeRef

end HandlerDocs
