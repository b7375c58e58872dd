import HandlerDocs.Text.Basic
import Mathlib.Data.List.DropRight

/-!
# The ends of a text

Characters that satisfy a test are dropped from the front of a text, from its end, or from both. The
two ends do not get into each other's way: either may come first. Of a text put together from two,
only the part at that end is changed, unless nothing is left of it.

* `head?_dropWhile`, `getLast?_dropEndWhile` — the character at which dropping stops.
* `dropEndWhile_append` — the end of a text put together from two.
* `dropWhile_dropEndWhile` — the order of the ends.
* `trim_trim` — a trimmed text is not trimmed further.
-/

namespace HandlerDocs.Text

theorem dropEndWhile_eq_rdropWhile (p : Char → Bool) (s : List Char) :
    dropEndWhile p s = s.rdropWhile p := rfl

/-! ### What is left -/

theorem isPrefix_dropEndWhile (p : Char → Bool) (s : List Char) : dropEndWhile p s <+: s := by
  rw [dropEndWhile_eq_rdropWhile]
  exact List.rdropWhile_prefix p s

theorem isInfix_dropEndWhile_dropWhile (p : Char → Bool) (s : List Char) :
    dropEndWhile p (s.dropWhile p) <:+: s :=
  (isPrefix_dropEndWhile p _).isInfix.trans (List.dropWhile_suffix p).isInfix

theorem head?_dropWhile (p : Char → Bool) (s : List Char) :
    ∀ c ∈ (s.dropWhile p).head?, p c = false := by
  intro c hc
  have hhead := List.head?_dropWhile_not p s
  rwa [Option.mem_def.mp hc] at hhead

theorem getLast?_dropEndWhile (p : Char → Bool) (s : List Char) :
    ∀ c ∈ (dropEndWhile p s).getLast?, p c = false := by
  rw [dropEndWhile, List.getLast?_reverse]
  exact head?_dropWhile p s.reverse

/-- What is left in front of a text starts where the text starts. -/
theorem head?_of_isPrefix {s t : List Char} (h : s <+: t) : ∀ c ∈ s.head?, c ∈ t.head? := by
  obtain ⟨rest, rfl⟩ := h
  intro c hc
  rw [List.head?_append, Option.mem_def.mp hc]
  rfl

/-- Dropping from the end leaves the character at which dropping from the front has stopped. -/
theorem head?_dropEndWhile_dropWhile (p : Char → Bool) (s : List Char) :
    ∀ c ∈ (dropEndWhile p (s.dropWhile p)).head?, p c = false :=
  fun c hc => head?_dropWhile p s c (head?_of_isPrefix (isPrefix_dropEndWhile p _) c hc)

/-! ### Two parts, two ends -/

theorem dropEndWhile_append (p : Char → Bool) (s t : List Char) :
    dropEndWhile p (s ++ t) =
      if dropEndWhile p t = [] then dropEndWhile p s else s ++ dropEndWhile p t := by
  simp only [dropEndWhile, List.reverse_append, List.dropWhile_append, List.isEmpty_iff,
    List.reverse_eq_nil_iff]
  split_ifs
  · rfl
  · rw [List.reverse_append, List.reverse_reverse]

/-- It does not matter from which end characters are dropped first. -/
theorem dropWhile_dropEndWhile (p : Char → Bool) (s : List Char) :
    (dropEndWhile p s).dropWhile p = dropEndWhile p (s.dropWhile p) := by
  induction s with
  | nil => rfl
  | cons c s ih =>
    have hcons : dropEndWhile p (c :: s) =
        if dropEndWhile p s = [] then dropEndWhile p [c] else c :: dropEndWhile p s :=
      dropEndWhile_append p [c] s
    by_cases hc : p c = true
    · -- The character is dropped from the front, unless it has been dropped from the end already.
      have hone : dropEndWhile p [c] = [] := by simp [dropEndWhile, hc]
      rw [List.dropWhile_cons_of_pos hc, ← ih, hcons, hone]
      split_ifs with hs
      · rw [hs]
      · exact List.dropWhile_cons_of_pos hc
    · have hone : dropEndWhile p [c] = [c] := by simp [dropEndWhile, hc]
      rw [List.dropWhile_cons_of_neg hc, hcons, hone]
      split_ifs <;> exact List.dropWhile_cons_of_neg hc

/-! ### Trimming -/

theorem head?_trim (s : List Char) : ∀ c ∈ (trim s).head?, isBlank c = false :=
  head?_dropEndWhile_dropWhile isBlank s

theorem getLast?_trim (s : List Char) : ∀ c ∈ (trim s).getLast?, isBlank c = false :=
  getLast?_dropEndWhile isBlank _

theorem trim_trim (s : List Char) : trim (trim s) = trim s :=
  trim_eq_self (head?_trim s) (getLast?_trim s)

end HandlerDocs.Text
