/-!
Cutting and joining texts, on lists of any elements with decidable equality: characters,
or the code points of a `Text`.

* `splitOn c s` cuts `s` at every `c`: `n` separators give `n + 1` pieces, empty pieces
  included. `joinWith c` puts the pieces back (`joinWith_splitOn`).
* `breakOn sep s` finds the first occurrence of a separator text and returns what stands before
  and after it (`breakOn_eq_some`).
* `replaceAll old new s` replaces occurrences of `old` from the left, none overlapping.
-/

namespace Remap.Text

variable {α : Type} [DecidableEq α]

-- ============================================================ single separators

/-- Cuts a text at every occurrence of a separator; the pieces keep every other element. -/
def splitOn (sep : α) : List α → List (List α)
  | [] => [[]]
  | c :: cs => if c = sep then [] :: splitOn sep cs else (splitOn sep cs).modifyHead (c :: ·)

/-- Joins pieces with a separator between each two of them. -/
def joinWith (sep : α) : List (List α) → List α
  | [] => []
  | [p] => p
  | p :: q :: ps => p ++ sep :: joinWith sep (q :: ps)

theorem splitOn_ne_nil (sep : α) (s : List α) : splitOn sep s ≠ [] := by
  cases s with
  | nil => simp [splitOn]
  | cons c cs =>
    unfold splitOn
    split
    · simp
    · cases h : splitOn sep cs with
      | nil => exact absurd h (splitOn_ne_nil sep cs)
      | cons p ps => simp

omit [DecidableEq α] in
theorem joinWith_cons_modifyHead (sep c : α) (l : List (List α)) (h : l ≠ []) :
    joinWith sep (l.modifyHead (c :: ·)) = c :: joinWith sep l := by
  match l, h with
  | [p], _ => rfl
  | p :: q :: ps, _ => rfl

/-- Joining the pieces gives the text back. -/
theorem joinWith_splitOn (sep : α) (s : List α) : joinWith sep (splitOn sep s) = s := by
  induction s with
  | nil => rfl
  | cons c cs ih =>
    unfold splitOn
    split
    · rename_i h
      subst h
      cases hs : splitOn c cs with
      | nil => exact absurd hs (splitOn_ne_nil c cs)
      | cons p ps => rw [hs] at ih; simp [joinWith, ih]
    · rw [joinWith_cons_modifyHead _ _ _ (splitOn_ne_nil sep cs), ih]

omit [DecidableEq α] in
/-- Joining a tail of the pieces gives no longer a text than joining them all. -/
theorem length_joinWith_drop_le (sep : α) (n : Nat) (l : List (List α)) :
    (joinWith sep (l.drop n)).length ≤ (joinWith sep l).length := by
  induction n generalizing l with
  | zero => simp
  | succ n ih =>
    match l with
    | [] => simp [joinWith]
    | [p] => simp [joinWith]
    | p :: q :: ps =>
      have := ih (q :: ps)
      simp only [List.drop_succ_cons, joinWith, List.length_append, List.length_cons] at this ⊢
      omega

omit [DecidableEq α] in
/-- Joining the pieces after the first is strictly shorter when there are two or more. -/
theorem length_joinWith_drop_succ_lt (sep : α) (n : Nat) (p q : List α)
    (ps : List (List α)) :
    (joinWith sep ((p :: q :: ps).drop (n + 1))).length < (joinWith sep (p :: q :: ps)).length := by
  have := length_joinWith_drop_le sep n (q :: ps)
  simp only [List.drop_succ_cons, joinWith, List.length_append, List.length_cons] at this ⊢
  omega

-- ============================================================ separator texts

/-- The text before and the text after the first occurrence of a separator, if there is one. -/
def breakOn (sep : List α) (s : List α) : Option (List α × List α) :=
  if sep.isPrefixOf s then some ([], s.drop sep.length)
  else
    match s with
    | [] => none
    | c :: cs => (breakOn sep cs).map fun p => (c :: p.1, p.2)

theorem isPrefixOf_iff_append {sep s : List α} :
    sep.isPrefixOf s = true ↔ sep ++ s.drop sep.length = s := by
  rw [List.isPrefixOf_iff_prefix]
  constructor
  · intro h
    obtain ⟨t, rfl⟩ := h
    simp
  · intro h
    exact ⟨_, h⟩

/-- A found separator stands between the two parts. -/
theorem breakOn_eq_some {sep s b a : List α} (h : breakOn sep s = some (b, a)) :
    b ++ sep ++ a = s := by
  induction s generalizing b with
  | nil =>
    unfold breakOn at h
    split at h
    · rename_i hp
      simp only [Option.some.injEq, Prod.mk.injEq] at h
      obtain ⟨rfl, rfl⟩ := h
      simpa using isPrefixOf_iff_append.1 hp
    · simp at h
  | cons c cs ih =>
    unfold breakOn at h
    split at h
    · rename_i hp
      simp only [Option.some.injEq, Prod.mk.injEq] at h
      obtain ⟨rfl, rfl⟩ := h
      simpa using isPrefixOf_iff_append.1 hp
    · obtain ⟨⟨b', a'⟩, hb, he⟩ := Option.map_eq_some_iff.1 h
      simp only [Prod.mk.injEq] at he
      obtain ⟨rfl, rfl⟩ := he
      simp [ih hb]

/-- The part after a nonempty separator is shorter than the text. -/
theorem length_lt_of_breakOn {sep s b a : List α} (h : breakOn sep s = some (b, a))
    (hsep : sep ≠ []) : a.length < s.length := by
  have := congrArg List.length (breakOn_eq_some h)
  have : 0 < sep.length := List.length_pos_iff.2 hsep
  simp only [List.length_append] at *
  omega

/-- Replaces each occurrence of `old`, scanning from the left; an occurrence that overlaps one
already replaced is not one. An empty `old` leaves the text as it is. -/
def replaceAll (old new : List α) (s : List α) : List α :=
  if h : old = [] then s
  else
    match hb : breakOn old s with
    | none => s
    | some (b, a) =>
      have : a.length < s.length := length_lt_of_breakOn hb h
      b ++ new ++ replaceAll old new a
termination_by s.length

end Remap.Text
