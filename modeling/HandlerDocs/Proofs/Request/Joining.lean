import HandlerDocs.Proofs.Text.Ends
import HandlerDocs.Request.Mapping

/-!
# Joined paths

Two paths are joined by one `/`, whatever slashes they already have there (`joint`). At a joint,
slashes are dropped from the end of one path and from the front of the other, but a path between two
joints may be nothing but slashes. Then the two joints are one; otherwise what is left of the path
(`bare`) stands between them. Either way it does not matter which joint is made first.

A blank path is left out. Joining looks at trimmed paths only and gives a trimmed path, so the same
holds of all texts.

* `joint_assoc`, `joinChars_assoc` — the order of the joints.
* `trim_joinChars` — a joined path is trimmed.
* `join_isConcatenation` — what joining does, at both ends and in between.
-/

namespace HandlerDocs.Path

open Text

/-! ### Joints -/

/-- Two texts with one `/` between them. -/
def joint (s t : List Char) : List Char :=
  dropEndWhile (· == '/') s ++ '/' :: t.dropWhile (· == '/')

/-- A text without the slashes at its ends. -/
def bare (s : List Char) : List Char :=
  dropEndWhile (· == '/') (s.dropWhile (· == '/'))

theorem joint_ne_nil (s t : List Char) : joint s t ≠ [] := by
  simp [joint]

/-- At the end of two joined texts, the joint goes along with a second text of slashes only. -/
theorem dropEndWhile_joint (s t : List Char) :
    dropEndWhile (· == '/') (joint s t) =
      if bare t = [] then dropEndWhile (· == '/') s
      else dropEndWhile (· == '/') s ++ '/' :: bare t := by
  have hjoint : dropEndWhile (· == '/') (dropEndWhile (· == '/') s ++ ['/']) =
      dropEndWhile (· == '/') s := by
    have hslash : dropEndWhile (· == '/') ['/'] = [] := rfl
    rw [dropEndWhile_append, if_pos hslash, dropEndWhile_eq_rdropWhile, dropEndWhile_eq_rdropWhile,
      List.rdropWhile_idempotent]
  rw [joint, List.append_cons, dropEndWhile_append, hjoint, ← bare, ← List.append_cons]

/-- In front of two joined texts, the joint goes along with a first text of slashes only. -/
theorem dropWhile_joint (s t : List Char) :
    (joint s t).dropWhile (· == '/') =
      if bare s = [] then t.dropWhile (· == '/') else bare s ++ '/' :: t.dropWhile (· == '/') := by
  have hjoint : ('/' :: t.dropWhile (· == '/')).dropWhile (· == '/') = t.dropWhile (· == '/') :=
    List.dropWhile_idempotent _ t
  rw [joint, List.dropWhile_append, dropWhile_dropEndWhile, hjoint, ← bare]
  by_cases hs : bare s = []
  · rw [if_pos (List.isEmpty_iff.mpr hs), if_pos hs]
  · rw [if_neg (mt List.isEmpty_iff.mp hs), if_neg hs]

/-- The order of two joints makes no difference. -/
theorem joint_assoc (s t u : List Char) : joint (joint s t) u = joint s (joint t u) :=
  calc joint (joint s t) u
    _ = dropEndWhile (· == '/') (joint s t) ++ '/' :: u.dropWhile (· == '/') := rfl
    _ = dropEndWhile (· == '/') s ++ '/' :: (joint t u).dropWhile (· == '/') := by
      rw [dropEndWhile_joint, dropWhile_joint]
      split_ifs
      · rfl
      · rw [List.append_assoc, List.cons_append]
    _ = joint s (joint t u) := rfl

theorem head?_joint (s t : List Char) : ∀ c ∈ (joint s t).head?, c ∈ s.head? ∨ c = '/' := by
  intro c hc
  rw [joint, List.head?_append, Option.mem_def, Option.or_eq_some_iff] at hc
  rcases hc with hs | ⟨-, hslash⟩
  · exact .inl (head?_of_isPrefix (isPrefix_dropEndWhile _ s) c hs)
  · exact .inr (Option.some.inj hslash).symm

theorem getLast?_joint (s t : List Char) :
    ∀ c ∈ (joint s t).getLast?, c ∈ t.getLast? ∨ c = '/' := by
  intro c hc
  obtain ⟨before, hbefore⟩ := List.dropWhile_suffix (l := t) (· == '/')
  rw [joint, List.getLast?_append, List.getLast?_cons, Option.some_or, Option.mem_def,
    Option.some_inj] at hc
  cases hlast : (t.dropWhile (· == '/')).getLast? with
  | none => exact .inr (by rw [← hc, hlast]; rfl)
  | some d =>
    refine .inl ?_
    rw [← hbefore, List.getLast?_append, hlast, ← hc, hlast]
    rfl

/-! ### Slashes -/

theorem exists_eq_append_slashes (s : List Char) :
    ∃ n, s = dropEndWhile (· == '/') s ++ List.replicate n '/' := by
  have hslashes : ∀ c ∈ s.rtakeWhile (· == '/'), c = '/' :=
    fun c hc => by simpa using List.mem_rtakeWhile_imp hc
  refine ⟨(s.rtakeWhile (· == '/')).length, ?_⟩
  rw [← List.eq_replicate_of_mem hslashes, dropEndWhile_eq_rdropWhile,
    List.rdropWhile_append_rtakeWhile]

theorem exists_eq_slashes_append (s : List Char) :
    ∃ n, s = List.replicate n '/' ++ s.dropWhile (· == '/') := by
  have hslashes : ∀ c ∈ s.takeWhile (· == '/'), c = '/' :=
    fun c hc => by simpa using List.mem_takeWhile_imp hc
  refine ⟨(s.takeWhile (· == '/')).length, ?_⟩
  rw [← List.eq_replicate_of_mem hslashes, List.takeWhile_append_dropWhile]

/-! ### Joining -/

theorem joinChars_of_blank_left {s : List Char} (hs : trim s = []) (t : List Char) :
    joinChars s t = trim t := by
  rw [joinChars, hs]

theorem joinChars_of_blank_right (s : List Char) {t : List Char} (ht : trim t = []) :
    joinChars s t = trim s := by
  rw [joinChars, ht]
  cases trim s <;> rfl

theorem joinChars_eq_joint {s t : List Char} (hs : trim s ≠ []) (ht : trim t ≠ []) :
    joinChars s t = joint (trim s) (trim t) := by
  rw [joinChars]
  split
  · contradiction
  · contradiction
  · rfl

/-- Neither a joint nor the outer end of a trimmed text is a blank. -/
theorem trim_joint (s t : List Char) :
    trim (joint (trim s) (trim t)) = joint (trim s) (trim t) := by
  have hslash : isBlank '/' = false := by decide
  refine trim_eq_self (fun c hc => ?_) fun c hc => ?_
  · rcases head?_joint _ _ c hc with hs | rfl
    · exact head?_trim s c hs
    · exact hslash
  · rcases getLast?_joint _ _ c hc with ht | rfl
    · exact getLast?_trim t c ht
    · exact hslash

theorem trim_joinChars (s t : List Char) : trim (joinChars s t) = joinChars s t := by
  by_cases hs : trim s = []
  · rw [joinChars_of_blank_left hs, trim_trim]
  by_cases ht : trim t = []
  · rw [joinChars_of_blank_right s ht, trim_trim]
  rw [joinChars_eq_joint hs ht, trim_joint]

theorem joinChars_trim_left (s t : List Char) : joinChars (trim s) t = joinChars s t := by
  rw [joinChars, joinChars, trim_trim]

theorem joinChars_trim_right (s t : List Char) : joinChars s (trim t) = joinChars s t := by
  rw [joinChars, joinChars, trim_trim]

theorem joinChars_assoc (s t u : List Char) :
    joinChars (joinChars s t) u = joinChars s (joinChars t u) := by
  by_cases hs : trim s = []
  · rw [joinChars_of_blank_left hs, joinChars_of_blank_left hs, joinChars_trim_left, trim_joinChars]
  by_cases ht : trim t = []
  · rw [joinChars_of_blank_right s ht, joinChars_of_blank_left ht, joinChars_trim_left,
      joinChars_trim_right]
  by_cases hu : trim u = []
  · rw [joinChars_of_blank_right _ hu, joinChars_of_blank_right t hu, trim_joinChars,
      joinChars_trim_right]
  -- No path is blank, and neither is what joins two of them: all that is left are joints.
  have hst : trim (joint (trim s) (trim t)) ≠ [] := by
    rw [trim_joint]
    exact joint_ne_nil _ _
  have htu : trim (joint (trim t) (trim u)) ≠ [] := by
    rw [trim_joint]
    exact joint_ne_nil _ _
  rw [joinChars_eq_joint hs ht, joinChars_eq_joint ht hu, joinChars_eq_joint hst hu,
    joinChars_eq_joint hs htu, trim_joint, trim_joint, joint_assoc]

theorem toList_join (a b : String) : (join a b).toList = joinChars a.toList b.toList :=
  String.toList_ofList

/-- **Joining paths is a concatenation.** It is associative; a blank path on either side gives the
other one, trimmed; a joined path neither starts nor ends with a blank; and if no path is blank, it
consists of the first path, trimmed and without the slashes at its end, one `/`, and the second
path, trimmed and without the slashes at its front. -/
theorem join_isConcatenation (a b c : String) :
    join (join a b) c = join a (join b c) ∧
    (isBlankText a = true → join a b = trimmed b) ∧
    (isBlankText b = true → join a b = trimmed a) ∧
    (∀ d ∈ (join a b).toList.head?, isBlank d = false) ∧
    (∀ d ∈ (join a b).toList.getLast?, isBlank d = false) ∧
    (isBlankText a = false → isBlankText b = false →
      ∃ x y m n,
        (trimmed a).toList = x ++ List.replicate m '/' ∧ x.getLast? ≠ some '/' ∧
        (trimmed b).toList = List.replicate n '/' ++ y ∧ y.head? ≠ some '/' ∧
        (join a b).toList = x ++ '/' :: y) := by
  refine ⟨?_, fun ha => ?_, fun hb => ?_, ?_, ?_, fun ha hb => ?_⟩
  · rw [← String.toList_inj]
    simp only [toList_join, joinChars_assoc]
  · rw [join, joinChars_of_blank_left (allBlank_iff.mp ha), trimmed]
  · rw [join, joinChars_of_blank_right _ (allBlank_iff.mp hb), trimmed]
  · rw [toList_join, ← trim_joinChars]
    exact head?_trim _
  · rw [toList_join, ← trim_joinChars]
    exact getLast?_trim _
  · have hane : trim a.toList ≠ [] := fun h => ne_true_of_eq_false ha (allBlank_iff.mpr h)
    have hbne : trim b.toList ≠ [] := fun h => ne_true_of_eq_false hb (allBlank_iff.mpr h)
    obtain ⟨m, hm⟩ := exists_eq_append_slashes (trim a.toList)
    obtain ⟨n, hn⟩ := exists_eq_slashes_append (trim b.toList)
    refine ⟨_, _, m, n, String.toList_ofList.trans hm, ?_, String.toList_ofList.trans hn, ?_, ?_⟩
    · exact fun h => absurd (getLast?_dropEndWhile _ _ _ h) (by decide)
    · exact fun h => absurd (head?_dropWhile _ _ _ h) (by decide)
    · rw [toList_join, joinChars_eq_joint hane hbne, joint]

/-- A path in front of a blank one, behind one, and in front of one with slashes and blanks of its
own. -/
theorem join_isConcatenation_users :
    (isBlankText "\t" = true ∧ join "\t" " /users " = trimmed " /users ") ∧
    (isBlankText " " = true ∧ join "/api/ " " " = trimmed "/api/ ") ∧
    (isBlankText " /api// " = false ∧ isBlankText "// users/" = false ∧
      ∃ x y m n,
        (trimmed " /api// ").toList = x ++ List.replicate m '/' ∧ x.getLast? ≠ some '/' ∧
        (trimmed "// users/").toList = List.replicate n '/' ++ y ∧ y.head? ≠ some '/' ∧
        (join " /api// " "// users/").toList = x ++ '/' :: y) := by
  have htab : isBlankText "\t" = true := by decide +kernel
  have hspace : isBlankText " " = true := by decide +kernel
  have hapi : isBlankText " /api// " = false := by decide +kernel
  have husers : isBlankText "// users/" = false := by decide +kernel
  refine ⟨⟨htab, ?_⟩, ⟨hspace, ?_⟩, hapi, husers, ?_⟩
  · exact (join_isConcatenation "\t" " /users " "").2.1 htab
  · exact (join_isConcatenation "/api/ " " " "").2.2.1 hspace
  · exact (join_isConcatenation " /api// " "// users/" "").2.2.2.2.2 hapi husers

/-- A path of slashes only is a joint, and blanks behind a slash stay. -/
example : join (join "/api/" " // ") "users" = "/api/users" ∧
    join (join "/api" "/ /") "/users" = "/api/ /users" := by
  decide +kernel

end HandlerDocs.Path
