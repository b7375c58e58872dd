import HandlerDocs.Proofs.Text.Ends
import HandlerDocs.Text.LetterCase
import Mathlib.Data.Bool.AllAny
import Mathlib.Data.List.Chain

/-!
# Snake case as a normal form

Whatever a text is, its snake case keeps all letters and digits in their order, with the capitals
in lower case, and puts single underscores between them. The scanner looks at the characters around
it and at the last character that it has written; all that matters of this is that an underscore is
never written behind another one (`isChain_snakeWords`).

A text that is in snake case already (`IsSnakeCase`) is left as it is: none of its characters is a
capital, and each underscore in it separates. Lower-casing may leave something that is not in snake
case, such as the mark behind the letter in the lower-casing of `İ`; but for this, what was
converted is in snake case.

* `letters` — what is kept of a text.
* `snakeCase_isNormalForm` — what is kept, what is written in between, and converting it again.
-/

namespace HandlerDocs

namespace Text

/-! ### Lower-casing -/

/-- A property of ASCII characters is one of their codes. -/
theorem forall_ascii {P : Char → Prop} (h : ∀ n < 0x80, P (Char.ofNat n)) {c : Char}
    (hc : c.toNat < 0x80) : P c := by
  have hcode := h c.toNat hc
  rwa [Char.ofNat_toNat] at hcode

theorem isUpper_underscore : isUpper '_' = false := by
  decide

theorem isAlphanumeric_underscore : isAlphanumeric '_' = false := by
  decide

theorem lower_ne_nil (c : Char) : lower c ≠ [] := by
  unfold lower
  split_ifs
  · exact List.cons_ne_nil _ _
  · exact List.cons_ne_nil _ _
  · split <;> exact List.cons_ne_nil _ _

/-- All lower-casings that lie outside of ASCII, or come from there, lie behind the underscore. -/
private theorem lt_of_mem_lowerShifts {run : CodeRun × Int} (hrun : run ∈ lowerShifts) {n : ℕ}
    (hn : run.1.contains n = true) : '_'.toNat < (n + run.2).toNat := by
  have htable : ∀ run ∈ lowerShifts, ('_'.toNat : Int) < run.1.first + run.2 := by
    decide +kernel
  have hfirst : run.1.first ≤ n := by
    simp only [CodeRun.contains, Bool.and_eq_true, decide_eq_true_eq] at hn
    exact hn.1.1
  have hshift := htable run hrun
  omega

private theorem ofNat_ne_underscore {n : ℕ} (h : '_'.toNat < n) : Char.ofNat n ≠ '_' := by
  intro heq
  by_cases hvalid : n.isValidChar
  · have hn : n = '_'.toNat := by
      rw [← heq, Char.ofNat, dif_pos hvalid]
      rfl
    exact absurd hn h.ne'
  · rw [Char.ofNat, dif_neg hvalid] at heq
    exact absurd heq (by decide)

/-- A capital does not lower-case to an underscore. -/
theorem underscore_notMem_lower {c : Char} (h : isUpper c = true) : '_' ∉ lower c := by
  unfold lower
  split_ifs with hascii hdotted
  · have hletters : ∀ n < 0x80, isUpper (Char.ofNat n) = true → (Char.ofNat n).toLower ≠ '_' := by
      decide +kernel
    have hne : c.toLower ≠ '_' :=
      forall_ascii (P := fun c => isUpper c = true → c.toLower ≠ '_') hletters hascii h
    exact fun hmem => hne (List.mem_singleton.mp hmem).symm
  · decide
  · split
    · rename_i run hrun
      have hcontains : run.1.contains c.toNat = true :=
        List.find?_some (p := fun run : CodeRun × Int => run.1.contains c.toNat) hrun
      have hlt := lt_of_mem_lowerShifts (List.mem_of_find?_eq_some hrun) hcontains
      exact fun hmem => ofNat_ne_underscore hlt (List.mem_singleton.mp hmem).symm
    · intro hmem
      obtain rfl := List.mem_singleton.mp hmem
      exact hascii (by decide)

/-- The capitals of ASCII lower-case to small letters. -/
theorem lower_of_ascii_isUpper {c : Char} (hc : c.toNat < 0x80) (h : isUpper c = true) :
    ∀ d ∈ lower c, isUpper d = false ∧ isAlphanumeric d = true := by
  have hletters : ∀ n < 0x80, isUpper (Char.ofNat n) = true →
      isUpper (Char.ofNat n).toLower = false ∧ isAlphanumeric (Char.ofNat n).toLower = true := by
    decide +kernel
  rw [lower_of_ascii hc]
  exact List.forall_mem_singleton.mpr (forall_ascii
    (P := fun c => isUpper c = true → isUpper c.toLower = false ∧ isAlphanumeric c.toLower = true)
    hletters hc h)

/-! ### Letters -/

/-- What is kept of a text: its letters and digits, with the capitals in lower case. -/
def letters (s : List Char) : List Char :=
  (s.filter fun c => isUpper c || isAlphanumeric c).flatMap fun c =>
    if isUpper c then lower c else [c]

theorem letters_cons (c : Char) (s : List Char) : letters (c :: s) = letters [c] ++ letters s := by
  rw [letters, ← List.singleton_append, List.filter_append, List.flatMap_append]
  rfl

theorem letters_upper {c : Char} (h : isUpper c = true) : letters [c] = lower c := by
  simp [letters, h]

theorem letters_alphanumeric {c : Char} (hu : isUpper c = false) (ha : isAlphanumeric c = true) :
    letters [c] = [c] := by
  simp [letters, hu, ha]

theorem letters_other {c : Char} (hu : isUpper c = false) (ha : isAlphanumeric c = false) :
    letters [c] = [] := by
  simp [letters, hu, ha]

/-- A kept character is from the lower-casing of a capital, or it is in the text and no capital. -/
theorem exists_of_mem_letters {s : List Char} {d : Char} (h : d ∈ letters s) :
    ∃ c ∈ s, (isUpper c = true ∧ d ∈ lower c) ∨
      (isUpper c = false ∧ isAlphanumeric c = true ∧ d = c) := by
  obtain ⟨c, hc, hd⟩ := List.mem_flatMap.mp h
  obtain ⟨hs, hkept⟩ := List.mem_filter.mp hc
  refine ⟨c, hs, ?_⟩
  cases hu : isUpper c with
  | true => exact .inl ⟨rfl, by simpa [hu] using hd⟩
  | false => exact .inr ⟨rfl, by simpa [hu] using hkept, by simpa [hu] using hd⟩

theorem underscore_notMem_letters (s : List Char) : '_' ∉ letters s := by
  intro h
  obtain ⟨c, -, ⟨hu, hd⟩ | ⟨-, ha, rfl⟩⟩ := exists_of_mem_letters h
  · exact underscore_notMem_lower hu hd
  · exact Bool.false_ne_true (isAlphanumeric_underscore.symm.trans ha)

/-! ### Words -/

/-- One step of the scanner: it writes an underscore, but never behind another one, or nothing, and
then what is kept of the character. It goes on with the last character that was written. -/
theorem snakeWords_cons (previous last : Option Char) (c : Char) (rest : List Char) :
    ∃ mark, (mark = [] ∨ mark = ['_'] ∧ last ≠ some '_') ∧
      snakeWords previous last (c :: rest) = mark ++ letters [c] ++
        snakeWords (some c) (last.toList ++ mark ++ letters [c]).getLast? rest := by
  rw [snakeWords]
  split_ifs with hu hstart ha hsep
  · refine ⟨['_'], .inr ⟨rfl, ?_⟩, ?_⟩
    · simp only [Bool.and_eq_true, bne_iff_ne] at hstart
      exact hstart.2
    · rw [letters_upper hu, List.getLast?_append_of_ne_nil _ (lower_ne_nil c)]
      rfl
  · refine ⟨[], .inl rfl, ?_⟩
    rw [letters_upper hu, List.getLast?_append_of_ne_nil _ (lower_ne_nil c)]
    rfl
  · refine ⟨[], .inl rfl, ?_⟩
    rw [letters_alphanumeric (by simpa using hu) ha, List.getLast?_concat]
    rfl
  · refine ⟨['_'], .inr ⟨rfl, ?_⟩, ?_⟩
    · simp only [Bool.and_eq_true, bne_iff_ne] at hsep
      exact hsep.2
    · rw [letters_other (by simpa using hu) (by simpa using ha), List.append_nil, List.append_nil,
        List.getLast?_concat]
      rfl
  · refine ⟨[], .inl rfl, ?_⟩
    rw [letters_other (by simpa using hu) (by simpa using ha)]
    cases last <;> rfl

/-- Without the underscores, the words of a text are its letters. -/
theorem filter_snakeWords (previous last : Option Char) (s : List Char) :
    (snakeWords previous last s).filter (· != '_') = letters s := by
  induction s generalizing previous last with
  | nil => rfl
  | cons c rest ih =>
    obtain ⟨mark, hmark, heq⟩ := snakeWords_cons previous last c rest
    have hnone : mark.filter (· != '_') = [] := by
      obtain rfl | ⟨rfl, -⟩ := hmark <;> rfl
    have hall : (letters [c]).filter (· != '_') = letters [c] := by
      refine List.filter_eq_self.mpr fun d hd => ?_
      exact bne_iff_ne.mpr (ne_of_mem_of_not_mem hd (underscore_notMem_letters [c]))
    rw [heq, List.filter_append, List.filter_append, hnone, hall, ih, List.nil_append,
      letters_cons c rest]

/-- Two characters of which at most one is an underscore. -/
def Apart (a b : Char) : Prop :=
  a ≠ '_' ∨ b ≠ '_'

/-- Letters may follow anything. -/
theorem isChain_append_letters {s t : List Char} (hs : s.IsChain Apart) (ht : '_' ∉ t) :
    (s ++ t).IsChain Apart := by
  have hne : ∀ d ∈ t, d ≠ '_' := fun d hd => ne_of_mem_of_not_mem hd ht
  have hchain : t.IsChain Apart :=
    (List.pairwise_of_forall_mem_list fun a ha _ _ => .inl (hne a ha)).isChain
  exact hs.append hchain fun _ _ d hd => .inr (hne d (List.mem_of_mem_head? hd))

/-- What follows the last character of a text follows the text. -/
theorem isChain_append_of_getLast? {s t : List Char} (hs : s.IsChain Apart)
    (ht : (s.getLast?.toList ++ t).IsChain Apart) : (s ++ t).IsChain Apart := by
  obtain ⟨-, hchain, hjoint⟩ := List.isChain_append.mp ht
  refine hs.append hchain fun a ha d hd => hjoint a ?_ d hd
  rw [Option.mem_def.mp ha]
  rfl

theorem isChain_of_isInfix {s t : List Char} (hs : s.IsChain Apart) (h : t <:+: s) :
    t.IsChain Apart := by
  obtain ⟨front, back, rfl⟩ := h
  exact (List.isChain_append.mp (List.isChain_append.mp hs).1).2.1

/-- No underscore is written behind another one. -/
theorem isChain_snakeWords (previous last : Option Char) (s : List Char) :
    (last.toList ++ snakeWords previous last s).IsChain Apart := by
  induction s generalizing previous last with
  | nil => cases last <;> simp [snakeWords]
  | cons c rest ih =>
    obtain ⟨mark, hmark, heq⟩ := snakeWords_cons previous last c rest
    have hstart : (last.toList ++ mark).IsChain Apart := by
      obtain rfl | ⟨rfl, hlast⟩ := hmark
      · cases last <;> simp
      · cases last with
        | none => simp
        | some l => simpa [Apart] using hlast
    have hwritten := isChain_append_letters hstart (underscore_notMem_letters [c])
    rw [heq, ← List.append_assoc, ← List.append_assoc]
    exact isChain_append_of_getLast? hwritten (ih _ _)

/-! ### Trimming -/

theorem filter_dropWhile_underscore (s : List Char) :
    (s.dropWhile (· == '_')).filter (· != '_') = s.filter (· != '_') := by
  induction s with
  | nil => rfl
  | cons c rest ih =>
    by_cases hc : c = '_'
    · subst hc
      exact ih
    · rw [List.dropWhile_cons_of_neg (by simpa using hc)]

/-- Trimming takes underscores only. -/
theorem filter_trimUnderscores (s : List Char) :
    (trimUnderscores s).filter (· != '_') = s.filter (· != '_') := by
  rw [trimUnderscores, dropEndWhile, List.filter_reverse, filter_dropWhile_underscore,
    ← List.filter_reverse, List.reverse_reverse, filter_dropWhile_underscore]

theorem isInfix_trimUnderscores (s : List Char) : trimUnderscores s <:+: s :=
  isInfix_dropEndWhile_dropWhile _ s

theorem head?_trimUnderscores (s : List Char) : (trimUnderscores s).head? ≠ some '_' :=
  fun h => absurd (head?_dropEndWhile_dropWhile _ s _ h) (by decide)

theorem getLast?_trimUnderscores (s : List Char) : (trimUnderscores s).getLast? ≠ some '_' :=
  fun h => absurd (getLast?_dropEndWhile _ _ _ h) (by decide)

/-- A text without underscores at its ends is not trimmed. -/
theorem trimUnderscores_eq_self {s : List Char} (first : s.head? ≠ some '_')
    (last : s.getLast? ≠ some '_') : trimUnderscores s = s :=
  dropEndWhile_dropWhile_eq_self
    (fun _ hc => beq_eq_false_iff_ne.mpr fun h => first (h ▸ hc))
    (fun _ hc => beq_eq_false_iff_ne.mpr fun h => last (h ▸ hc))

/-! ### Converting again -/

/-- Texts of letters and digits, none of them a capital, with single underscores between them. -/
structure IsSnakeCase (t : List Char) : Prop where
  kept : ∀ c ∈ t, c ≠ '_' → isUpper c = false ∧ isAlphanumeric c = true
  first : t.head? ≠ some '_'
  last : t.getLast? ≠ some '_'
  apart : t.IsChain Apart

/-- The scanner copies what is in snake case: no character of it starts a word, and each underscore
comes behind a character that is not one. -/
theorem snakeWords_eq_self {previous last : Option Char} {t : List Char}
    (kept : ∀ c ∈ t, c ≠ '_' → isUpper c = false ∧ isAlphanumeric c = true)
    (first : last = none → t.head? ≠ some '_') (apart : (last.toList ++ t).IsChain Apart) :
    snakeWords previous last t = t := by
  induction t generalizing previous last with
  | nil => rfl
  | cons c rest ih =>
    have hrest : snakeWords (some c) (some c) rest = rest :=
      ih (fun d hd => kept d (List.mem_cons_of_mem _ hd))
        (fun h => absurd h (Option.some_ne_none c))
        (List.isChain_append.mp apart).2.1
    rw [snakeWords]
    by_cases hc : c = '_'
    · subst hc
      cases last with
      | none => exact absurd rfl (first rfl)
      | some l =>
        have hl : l ≠ '_' := by simpa [Apart] using apart.rel
        have hsep : (isWordSeparator '_' && (some l).isSome && some l != some '_') = true := by
          simpa [isWordSeparator] using hl
        rw [if_neg (by simp [isUpper_underscore]), if_neg (by simp [isAlphanumeric_underscore]),
          if_pos hsep, hrest]
    · obtain ⟨hu, ha⟩ := kept c List.mem_cons_self hc
      rw [if_neg (by simp [hu]), if_pos ha, hrest]

/-- What was converted is in snake case, unless the lower-casing of a capital is not. -/
theorem isSnakeCase_trimUnderscores {s : List Char}
    (hs : ∀ c ∈ s, isUpper c = true → ∀ d ∈ lower c, isUpper d = false ∧ isAlphanumeric d = true) :
    IsSnakeCase (trimUnderscores (snakeWords none none s)) where
  kept := by
    intro d hd hne
    have hmem : d ∈ letters s := by
      rw [← filter_snakeWords none none s]
      exact List.mem_filter.mpr ⟨(isInfix_trimUnderscores _).mem hd, bne_iff_ne.mpr hne⟩
    obtain ⟨c, hc, ⟨hu, hlower⟩ | ⟨hu, ha, rfl⟩⟩ := exists_of_mem_letters hmem
    · exact hs c hc hu d hlower
    · exact ⟨hu, ha⟩
  first := head?_trimUnderscores _
  last := getLast?_trimUnderscores _
  apart := isChain_of_isInfix (isChain_snakeWords none none s) (isInfix_trimUnderscores _)

theorem IsSnakeCase.trimUnderscores_snakeWords {t : List Char} (ht : IsSnakeCase t) :
    trimUnderscores (snakeWords none none t) = t := by
  have hcopy : snakeWords none none t = t :=
    snakeWords_eq_self ht.kept (fun _ => ht.first) ht.apart
  rw [hcopy, trimUnderscores_eq_self ht.first ht.last]

end Text

open Text

theorem toList_snakeCase (s : String) :
    (snakeCase s).toList = trimUnderscores (snakeWords none none s.toList) :=
  String.toList_ofList

/-- Texts in snake case are left as they are. -/
theorem snakeCase_eq_self {s : String} (hs : IsSnakeCase s.toList) : snakeCase s = s :=
  String.toList_inj.mp ((toList_snakeCase s).trans hs.trimUnderscores_snakeWords)

/-- **Snake case is a normal form that keeps what a text says.** The snake case of a text neither
starts nor ends with an underscore, and has no two of them in a row; without its underscores it is
the letters and digits of the text, in their order and with the capitals in lower case; and
converting it again changes nothing, unless a capital of the text lower-cases to something that has
a capital, or something that is neither a letter nor a digit, in it. ASCII has no such capital. -/
theorem snakeCase_isNormalForm (s : String) :
    ((snakeCase s).toList.head? ≠ some '_' ∧ (snakeCase s).toList.getLast? ≠ some '_' ∧
      ¬ ['_', '_'] <:+: (snakeCase s).toList) ∧
    (snakeCase s).toList.filter (· != '_') = letters s.toList ∧
    ((∀ c ∈ s.toList, isUpper c = true →
        ∀ d ∈ lower c, isUpper d = false ∧ isAlphanumeric d = true) →
      snakeCase (snakeCase s) = snakeCase s) ∧
    ((∀ c ∈ s.toList, c.toNat < 0x80) → snakeCase (snakeCase s) = snakeCase s) := by
  have hagain : (∀ c ∈ s.toList, isUpper c = true →
      ∀ d ∈ lower c, isUpper d = false ∧ isAlphanumeric d = true) →
      snakeCase (snakeCase s) = snakeCase s := by
    intro hs
    refine snakeCase_eq_self ?_
    rw [toList_snakeCase]
    exact isSnakeCase_trimUnderscores hs
  refine ⟨?_, ?_, hagain, fun hs => hagain fun c hc hu => lower_of_ascii_isUpper (hs c hc) hu⟩
  · rw [toList_snakeCase]
    refine ⟨head?_trimUnderscores _, getLast?_trimUnderscores _, fun hdouble => ?_⟩
    have hpair : ['_', '_'].IsChain Apart :=
      isChain_of_isInfix (isChain_snakeWords none none s.toList)
        (hdouble.trans (isInfix_trimUnderscores _))
    exact absurd hpair.rel (by simp [Apart])
  · rw [toList_snakeCase, filter_trimUnderscores, filter_snakeWords]

/-- The first condition for a second conversion holds of an umlaut, the second of an acronym. -/
theorem snakeCase_isNormalForm_umlaut :
    ((∀ c ∈ "straßeÄndern".toList, isUpper c = true →
        ∀ d ∈ lower c, isUpper d = false ∧ isAlphanumeric d = true) ∧
      snakeCase (snakeCase "straßeÄndern") = snakeCase "straßeÄndern") ∧
    (∀ c ∈ "get HTTP-Response_".toList, c.toNat < 0x80) ∧
      snakeCase (snakeCase "get HTTP-Response_") = snakeCase "get HTTP-Response_" := by
  have hcapital : ∀ c ∈ "straßeÄndern".toList, c = 'Ä' ∨ isUpper c = false :=
    List.all_iff_forall_prop.mp (by decide +kernel)
  have hlower : lower 'Ä' = ['ä'] := by decide +kernel
  have humlaut : ∀ c ∈ "straßeÄndern".toList, isUpper c = true →
      ∀ d ∈ lower c, isUpper d = false ∧ isAlphanumeric d = true := by
    intro c hc hu
    obtain rfl | hsmall := hcapital c hc
    · rw [hlower]
      exact List.forall_mem_singleton.mpr (by decide +kernel)
    · exact absurd hu (ne_true_of_eq_false hsmall)
  have hascii : ∀ c ∈ "get HTTP-Response_".toList, c.toNat < 0x80 :=
    List.all_iff_forall_prop.mp (by decide +kernel)
  exact ⟨⟨humlaut, (snakeCase_isNormalForm "straßeÄndern").2.2.1 humlaut⟩,
    hascii, (snakeCase_isNormalForm "get HTTP-Response_").2.2.2 hascii⟩

/-- The lower-casing of `İ` ends with a mark, which is dropped when it is converted again. -/
example : snakeCase (snakeCase "İd") ≠ snakeCase "İd" := by
  decide +kernel

end HandlerDocs
