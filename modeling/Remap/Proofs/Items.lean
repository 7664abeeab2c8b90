import Remap.Resolve
import Remap.Proofs.Marks
/-!
The items of a list literal.

`listItems` makes two passes over the whole payload, each a replacement from the left that never
looks again at what it wrote: `, ` becomes `,`, then ` ,` becomes `,`. Each pattern holds exactly
one comma and cannot overlap itself, so neither pass adds, removes or merges commas; they trim
the pieces between the commas one by one. The first takes one space off the front of every piece
but the first (`replaceAll_joinWith_front`), the second one space off the end of every piece but
the last (`replaceAll_joinWith_back`). Cutting at the commas then gives the trimmed pieces back,
as many as the payload has pieces (`listItems_eq_trimItem`).

A replacement is read one element at a time (`replaceAll_cons`): where the pattern starts it is
replaced and passed over, and anywhere else one element is kept.
-/

namespace Remap.Text

variable {α : Type} [DecidableEq α]

-- ============================================================ trimming one element

/-- A list less its first element, when that is `d`. -/
def dropFirstIf (d : α) : List α → List α
  | x :: t => if x = d then t else x :: t
  | [] => []

/-- A list less its last element, when that is `d`. -/
def dropLastIf (d : α) (t : List α) : List α :=
  if t.getLast? = some d then t.dropLast else t

theorem dropFirstIf_sublist (d : α) : ∀ t : List α, (dropFirstIf d t).Sublist t
  | [] => .slnil
  | x :: t => by
    show (if x = d then t else x :: t).Sublist (x :: t)
    split
    · exact List.sublist_cons_self x t
    · exact List.Sublist.refl _

theorem dropLastIf_sublist (d : α) (t : List α) : (dropLastIf d t).Sublist t := by
  unfold dropLastIf
  split
  · exact List.dropLast_sublist t
  · exact List.Sublist.refl t

theorem not_mem_dropFirstIf {c d : α} {t : List α} (h : c ∉ t) : c ∉ dropFirstIf d t :=
  fun m => h ((dropFirstIf_sublist d t).subset m)

theorem not_mem_dropLastIf {c d : α} {t : List α} (h : c ∉ t) : c ∉ dropLastIf d t :=
  fun m => h ((dropLastIf_sublist d t).subset m)

@[simp] theorem dropLastIf_nil (d : α) : dropLastIf d [] = [] := by
  simp [dropLastIf]

/-- Dropping a last `d` keeps the first element, unless it is a lone `d`. -/
theorem dropLastIf_cons {d x : α} {t : List α} (h : t ≠ [] ∨ x ≠ d) :
    dropLastIf d (x :: t) = x :: dropLastIf d t := by
  cases t with
  | nil =>
    have hx : x ≠ d := h.resolve_left (fun h => h rfl)
    simp [dropLastIf, hx]
  | cons y t =>
    unfold dropLastIf
    rw [List.getLast?_cons_cons, List.dropLast_cons_cons]
    split <;> rfl

omit [DecidableEq α] in
theorem joinWith_cons_of_ne_nil (sep : α) (p : List α) {ps : List (List α)} (h : ps ≠ []) :
    joinWith sep (p :: ps) = p ++ sep :: joinWith sep ps := by
  obtain ⟨q, qs, rfl⟩ := List.exists_cons_of_ne_nil h
  rfl

/-- Dropping a first `d` of joined pieces drops it from the first piece, since the separator is
no `d`. -/
theorem dropFirstIf_joinWith {c d : α} (hcd : c ≠ d) (q : List α) (qs : List (List α)) :
    dropFirstIf d (joinWith c (q :: qs)) = joinWith c (dropFirstIf d q :: qs) := by
  cases qs with
  | nil => rfl
  | cons q' qs =>
    rw [joinWith_cons_of_ne_nil c q (List.cons_ne_nil q' qs),
      joinWith_cons_of_ne_nil c _ (List.cons_ne_nil q' qs)]
    cases q with
    | nil => simp [dropFirstIf, hcd]
    | cons x t => by_cases hx : x = d <;> simp [dropFirstIf, hx]

-- ============================================================ replacing from the left

section replace

variable {old : List α} (hold : old ≠ []) (new : List α)
include hold

theorem replaceAll_of_breakOn_none {s : List α} (h : breakOn old s = none) :
    replaceAll old new s = s := by
  rw [replaceAll, dif_neg hold]
  split
  · rfl
  · rename_i heq
    rw [h] at heq
    cases heq

theorem replaceAll_of_breakOn_some {s b a : List α} (h : breakOn old s = some (b, a)) :
    replaceAll old new s = b ++ new ++ replaceAll old new a := by
  rw [replaceAll, dif_neg hold]
  split
  · rename_i heq
    rw [h] at heq
    cases heq
  · rename_i b' a' heq
    rw [h] at heq
    cases heq
    rfl

@[simp] theorem replaceAll_nil : replaceAll old new [] = [] := by
  obtain ⟨x, os, rfl⟩ := List.exists_cons_of_ne_nil hold
  exact replaceAll_of_breakOn_none hold new breakOn_nil

/-- Replacing reads one element at a time: where the pattern starts it is replaced and passed
over, and any other element is kept. -/
theorem replaceAll_cons (x : α) (s : List α) :
    replaceAll old new (x :: s) =
      if old.isPrefixOf (x :: s) then new ++ replaceAll old new ((x :: s).drop old.length)
      else x :: replaceAll old new s := by
  split
  · rename_i hp
    rw [replaceAll_of_breakOn_some hold new (by rw [breakOn, if_pos hp]), List.nil_append]
  · rename_i hp
    have hb : breakOn old (x :: s) = (breakOn old s).map fun r => (x :: r.1, r.2) := by
      rw [breakOn, if_neg hp]
    cases hs : breakOn old s with
    | none =>
      rw [replaceAll_of_breakOn_none hold new (by rw [hb, hs]; rfl),
        replaceAll_of_breakOn_none hold new hs]
    | some r =>
      obtain ⟨b, a⟩ := r
      rw [replaceAll_of_breakOn_some hold new (b := x :: b) (a := a) (by rw [hb, hs]; rfl),
        replaceAll_of_breakOn_some hold new hs]
      rfl

/-- A text holding an element of the pattern nowhere is left as it is. -/
theorem replaceAll_of_not_mem {x : α} (hx : x ∈ old) {s : List α} (h : x ∉ s) :
    replaceAll old new s = s := by
  apply replaceAll_of_breakOn_none hold new
  cases hb : breakOn old s with
  | none => rfl
  | some r =>
    have hs := breakOn_eq_some hb
    exact absurd (hs ▸ by simp [hx]) h

end replace

/-- A part holding no first element of the pattern is kept as it is. -/
theorem replaceAll_append_of_not_mem {x : α} {os : List α} (new : List α) {p : List α}
    (hx : x ∉ p) (s : List α) :
    replaceAll (x :: os) new (p ++ s) = p ++ replaceAll (x :: os) new s := by
  induction p with
  | nil => rfl
  | cons y p ih =>
    have hy : x ≠ y := fun e => hx (e ▸ List.mem_cons_self)
    rw [List.cons_append, replaceAll_cons (List.cons_ne_nil x os),
      if_neg (by simp [List.isPrefixOf, hy]), ih (fun m => hx (List.mem_cons_of_mem y m)),
      List.cons_append]

-- ============================================================ the two passes

variable {c d : α}

/-- A separator `c` passes a `d` right after it: `c d` becomes `c`. -/
theorem replaceAll_sep_front (hcd : c ≠ d) (r : List α) :
    replaceAll [c, d] [c] (c :: r) = c :: replaceAll [c, d] [c] (dropFirstIf d r) := by
  rw [replaceAll_cons (List.cons_ne_nil c [d])]
  cases r with
  | nil => simp [List.isPrefixOf, dropFirstIf]
  | cons y r =>
    by_cases hy : y = d
    · subst hy
      simp [List.isPrefixOf, dropFirstIf]
    · simp [List.isPrefixOf, dropFirstIf, hy, Ne.symm hy]

/-- Replacing `c d` by `c` in pieces joined by `c` and holding no `c` drops one `d` off the front
of every piece but the first. -/
theorem replaceAll_joinWith_front (hcd : c ≠ d) :
    ∀ (p : List α) (ps : List (List α)), (∀ q ∈ p :: ps, c ∉ q) →
      replaceAll [c, d] [c] (joinWith c (p :: ps)) = joinWith c (p :: ps.map (dropFirstIf d))
  | p, [], h => replaceAll_of_not_mem (List.cons_ne_nil c [d]) [c] List.mem_cons_self
      (h p List.mem_cons_self)
  | p, q :: qs, h => by
    have hp : c ∉ p := h p List.mem_cons_self
    -- the trimmed piece holds no `c` either, so the rest is trimmed the same way
    have hrest : ∀ r ∈ dropFirstIf d q :: qs, c ∉ r := by
      intro r hr
      rcases List.mem_cons.1 hr with rfl | hr
      · exact not_mem_dropFirstIf (h q (by simp))
      · exact h r (by simp [hr])
    rw [joinWith_cons_of_ne_nil c p (List.cons_ne_nil q qs), replaceAll_append_of_not_mem [c] hp,
      replaceAll_sep_front hcd, dropFirstIf_joinWith hcd,
      replaceAll_joinWith_front hcd (dropFirstIf d q) qs hrest, List.map_cons,
      joinWith_cons_of_ne_nil c p (List.cons_ne_nil _ _)]

/-- A `d` right before a separator `c` is dropped: `d c` becomes `c`. -/
theorem replaceAll_append_sep (hcd : c ≠ d) (s : List α) :
    ∀ {p : List α}, c ∉ p →
      replaceAll [d, c] [c] (p ++ c :: s) = dropLastIf d p ++ c :: replaceAll [d, c] [c] s
  | [], _ => by
    rw [List.nil_append, replaceAll_cons (List.cons_ne_nil d [c]),
      if_neg (by simp [List.isPrefixOf, Ne.symm hcd]), dropLastIf_nil, List.nil_append]
  | x :: t, h => by
    have hx : x ≠ c := fun e => h (e ▸ List.mem_cons_self)
    have ht : c ∉ t := fun m => h (List.mem_cons_of_mem x m)
    by_cases hend : x = d ∧ t = []
    · obtain ⟨rfl, rfl⟩ := hend
      rw [List.cons_append, List.nil_append, replaceAll_cons (List.cons_ne_nil x [c]),
        if_pos (by simp [List.isPrefixOf])]
      simp [dropLastIf]
    · -- the pattern cannot start at `x`: either `x` is no `d`, or no `c` follows it
      have hnp : ¬ ([d, c].isPrefixOf (x :: (t ++ c :: s)) = true) := by
        cases t with
        | nil =>
          simp only [List.isPrefixOf, List.nil_append, beq_self_eq_true, Bool.and_true,
            beq_iff_eq]
          exact fun e => hend ⟨e.symm, rfl⟩
        | cons y t =>
          have hy : y ≠ c := fun e => ht (e ▸ List.mem_cons_self)
          simp [List.isPrefixOf, Ne.symm hy]
      have hkeep : t ≠ [] ∨ x ≠ d := by
        by_cases ht' : t = []
        · exact .inr fun hxd => hend ⟨hxd, ht'⟩
        · exact .inl ht'
      rw [List.cons_append, replaceAll_cons (List.cons_ne_nil d [c]), if_neg hnp,
        replaceAll_append_sep hcd s ht, dropLastIf_cons hkeep, List.cons_append]

/-- Replacing `d c` by `c` in pieces joined by `c` and holding no `c` drops one `d` off the end of
every piece but the last. -/
theorem replaceAll_joinWith_back (hcd : c ≠ d) :
    ∀ {ps : List (List α)}, (∀ q ∈ ps, c ∉ q) →
      replaceAll [d, c] [c] (joinWith c ps) =
        joinWith c (ps.mapIdx fun i q => if i + 1 < ps.length then dropLastIf d q else q)
  | [], _ => replaceAll_nil (List.cons_ne_nil d [c]) [c]
  | [p], h => by
    simp only [List.mapIdx_singleton, List.length_singleton, Nat.lt_irrefl, if_false]
    exact replaceAll_of_not_mem (List.cons_ne_nil d [c]) [c] (by simp) (h p List.mem_cons_self)
  | p :: q :: qs, h => by
    have hrest : ∀ r ∈ q :: qs, c ∉ r := fun r hr => h r (List.mem_cons_of_mem p hr)
    -- the piece `p` is not the last, so it loses its end; the others are counted from `q`
    have hidx : ((p :: q :: qs).mapIdx fun i r =>
          if i + 1 < (p :: q :: qs).length then dropLastIf d r else r) =
        dropLastIf d p :: (q :: qs).mapIdx fun i r =>
          if i + 1 < (q :: qs).length then dropLastIf d r else r := by
      rw [List.mapIdx_cons]
      simp
    rw [joinWith_cons_of_ne_nil c p (List.cons_ne_nil q qs), replaceAll_append_sep hcd _ (h p (by simp)),
      replaceAll_joinWith_back hcd hrest, hidx,
      joinWith_cons_of_ne_nil c _ (by simp)]

end Remap.Text

namespace Remap

/-- The `i`-th of `n` pieces of a list literal's payload, trimmed: one space off its front unless
it is the first piece, then one space off its end unless it is the last. -/
def trimItem (n i : Nat) (p : Text) : Text :=
  let front := if 0 < i then Text.dropFirstIf (.scalar ' ') p else p
  if i + 1 < n then Text.dropLastIf (.scalar ' ') front else front

/-- On pieces joined by commas, the first pass trims the front of every piece but the first and
the second the end of every piece but the last; the commas stay, so cutting at them gives the
trimmed pieces. -/
theorem listItems_joinWith {p : Text} {ps : List Text}
    (h : ∀ q ∈ p :: ps, CodePoint.scalar ',' ∉ q) :
    listItems (Text.joinWith (.scalar ',') (p :: ps)) =
      (p :: ps.map (Text.dropFirstIf (.scalar ' '))).mapIdx fun i q =>
        if i + 1 < ps.length + 1 then Text.dropLastIf (.scalar ' ') q else q := by
  have hcd : CodePoint.scalar ',' ≠ .scalar ' ' := by decide
  have hfront : ∀ q ∈ p :: ps.map (Text.dropFirstIf (.scalar ' ')), CodePoint.scalar ',' ∉ q := by
    intro q hq
    rcases List.mem_cons.1 hq with rfl | hq
    · exact h q List.mem_cons_self
    · obtain ⟨r, hr, rfl⟩ := List.mem_map.1 hq
      exact Text.not_mem_dropFirstIf (h r (List.mem_cons_of_mem p hr))
  have hback : ∀ q ∈ (p :: ps.map (Text.dropFirstIf (.scalar ' '))).mapIdx (fun i q =>
      if i + 1 < ps.length + 1 then Text.dropLastIf (.scalar ' ') q else q),
      CodePoint.scalar ',' ∉ q := by
    intro q hq
    obtain ⟨i, hi, rfl⟩ := List.mem_mapIdx.1 hq
    split
    · exact Text.not_mem_dropLastIf (hfront _ (List.getElem_mem hi))
    · exact hfront _ (List.getElem_mem hi)
  unfold listItems
  dsimp only
  rw [Text.replaceAll_joinWith_front hcd p ps h, Text.replaceAll_joinWith_back hcd hfront]
  simp only [List.length_cons, List.length_map]
  exact Text.splitOn_joinWith (by simp) hback

/-- Trimming the fronts of the pieces after the first, then the ends of the pieces before the
last, trims each piece by `trimItem`. -/
theorem mapIdx_trimItem (p : Text) (ps : List Text) :
    ((p :: ps.map (Text.dropFirstIf (.scalar ' '))).mapIdx fun i q =>
        if i + 1 < ps.length + 1 then Text.dropLastIf (.scalar ' ') q else q) =
      (p :: ps).mapIdx (trimItem (ps.length + 1)) := by
  apply List.ext_getElem (by simp)
  intro i h1 h2
  simp only [List.getElem_mapIdx]
  cases i with
  | zero => simp [trimItem]
  | succ j => simp [trimItem]

/-- The items of a list literal are the pieces of its payload between commas, exactly as many,
each trimmed on its own (`trimItem`): the two passes over the whole payload act piece by piece. -/
theorem listItems_eq_trimItem (s : Text) :
    listItems s =
      (Text.splitOn (.scalar ',') s).mapIdx (trimItem (Text.splitOn (.scalar ',') s).length) := by
  obtain ⟨p, ps, hs⟩ := List.exists_cons_of_ne_nil (Text.splitOn_ne_nil (.scalar ',') s)
  have hjoin : Text.joinWith (.scalar ',') (p :: ps) = s := by
    rw [← hs, Text.joinWith_splitOn]
  have hfree : ∀ q ∈ p :: ps, CodePoint.scalar ',' ∉ q :=
    fun q hq => Text.not_mem_of_mem_splitOn (hs ▸ hq)
  rw [hs, List.length_cons, ← mapIdx_trimItem, ← listItems_joinWith hfree, hjoin]

example : listItems (Text.ofString "a,  b") = [Text.ofString "a", Text.ofString " b"] := by
  decide +kernel

example : listItems (Text.ofString " , ") = [[], []] := by
  decide +kernel

end Remap
