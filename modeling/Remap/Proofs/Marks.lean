import Remap.Address
/-!
Where the `.OR.` marks of an address stand.

An address is its segments joined by dots (`Address.joinDots_segments`), and no segment holds a
dot. A `.OR.` mark is a dot, the word `OR` and a dot, so in dotted text it can only be a segment
`OR` with a segment on either side of it. The first mark of an address therefore stands at its
first inner segment `OR` (`breakOn_joinDots_append`), and an address with no inner segment `OR`
holds no mark at all (`breakOn_joinDots_eq_none`).

An *alternative* is an address none of whose segments after the first is `OR`. Writing a mark
and any address after it cuts it exactly there (`firstAlternative_or`); the `.OR.` laws that
compare `x` with `x.OR.y` are about such `x`. The alternatives of an address are the pieces its
marks cut it into (`alternatives`); resolving it looks in the sources only under their first
segments.
-/

namespace Remap.Text

variable {α : Type} [DecidableEq α]

-- ============================================================ cutting at one separator

/-- Cutting at a separator that stands between two texts cuts both apart. -/
theorem splitOn_append_cons (sep : α) (x z : List α) :
    splitOn sep (x ++ sep :: z) = splitOn sep x ++ splitOn sep z := by
  induction x with
  | nil => simp [splitOn]
  | cons c cs ih =>
    by_cases hc : c = sep
    · simp [splitOn, hc, ih]
    · obtain ⟨p, ps, hp⟩ := List.exists_cons_of_ne_nil (splitOn_ne_nil sep cs)
      simp [splitOn, hc, ih, hp]

/-- A text without the separator is one piece. -/
theorem splitOn_of_not_mem {sep : α} : ∀ {s : List α}, sep ∉ s → splitOn sep s = [s]
  | [], _ => rfl
  | c :: cs, h => by
    have hc : c ≠ sep := fun e => h (e ▸ List.mem_cons_self)
    have ih := splitOn_of_not_mem (s := cs) (fun m => h (List.mem_cons_of_mem c m))
    simp [splitOn, hc, ih]

/-- Cutting pieces joined by a separator none of them holds gives the pieces back. -/
theorem splitOn_joinWith {sep : α} :
    ∀ {ps : List (List α)}, ps ≠ [] → (∀ p ∈ ps, sep ∉ p) → splitOn sep (joinWith sep ps) = ps
  | [p], _, h => splitOn_of_not_mem (h p List.mem_cons_self)
  | p :: q :: qs, _, h => by
    have hp := splitOn_of_not_mem (h p List.mem_cons_self)
    have ih := splitOn_joinWith (List.cons_ne_nil q qs)
      (fun r hr => h r (List.mem_cons_of_mem p hr))
    rw [joinWith, splitOn_append_cons, hp, ih]
    rfl

/-- No piece holds the separator. -/
theorem not_mem_of_mem_splitOn {sep : α} {p : List α} :
    ∀ {s : List α}, p ∈ splitOn sep s → sep ∉ p
  | [], h => by simp_all [splitOn]
  | c :: cs, h => by
    unfold splitOn at h
    split at h
    · rcases List.mem_cons.1 h with rfl | h
      · simp
      · exact not_mem_of_mem_splitOn h
    · rename_i hc
      obtain ⟨q, qs, hq⟩ := List.exists_cons_of_ne_nil (splitOn_ne_nil sep cs)
      rw [hq] at h
      simp only [List.modifyHead_cons, List.mem_cons] at h
      rcases h with rfl | h
      · have hq' : sep ∉ q := not_mem_of_mem_splitOn (s := cs) (by simp [hq])
        simp only [List.mem_cons, not_or]
        exact ⟨fun e => hc e.symm, hq'⟩
      · exact not_mem_of_mem_splitOn (s := cs) (by simp [hq, h])

-- ============================================================ finding a separator text

/-- A text that cannot open a separator is passed over whole when the separator is sought. -/
theorem breakOn_append_of_not_mem {c : α} {sep p : List α} (l : List α) (h : c ∉ p) :
    breakOn (c :: sep) (p ++ l) = (breakOn (c :: sep) l).map fun r => (p ++ r.1, r.2) := by
  induction p with
  | nil => simp
  | cons x p ih =>
    have hx : c ≠ x := fun e => h (e ▸ List.mem_cons_self)
    have ih := ih (fun m => h (List.mem_cons_of_mem x m))
    rw [List.cons_append, breakOn, if_neg (by simp [List.isPrefixOf, hx]), ih, Option.map_map]
    rfl

theorem breakOn_nil {c : α} {sep : List α} : breakOn (c :: sep) [] = none := by
  simp [breakOn]

end Remap.Text

namespace Remap.Address

open Text

-- ============================================================ segments

/-- No segment holds a dot. -/
theorem dot_not_mem_of_mem_segments {a s : Text} (h : s ∈ segments a) : dot ∉ s :=
  not_mem_of_mem_splitOn h

/-- Segments that hold no dot are the segments of their joining. -/
theorem segments_joinDots {ps : List Text} (hne : ps ≠ []) (h : ∀ p ∈ ps, dot ∉ p) :
    segments (joinDots ps) = ps :=
  splitOn_joinWith hne h

@[simp] theorem joinDots_singleton (p : Text) : joinDots [p] = p := rfl

theorem joinDots_cons_cons (p q : Text) (qs : List Text) :
    joinDots (p :: q :: qs) = p ++ dot :: joinDots (q :: qs) := rfl

theorem orMark_eq : orMark = dot :: (orWord ++ [dot]) := rfl

theorem dot_not_mem_orWord : dot ∉ orWord := by decide

/-- Joining around a segment `OR` writes a `.OR.` mark. -/
theorem joinDots_append_orWord {ys : List Text} (hys : ys ≠ []) :
    ∀ {xs : List Text}, xs ≠ [] →
      joinDots (xs ++ orWord :: ys) = joinDots xs ++ orMark ++ joinDots ys
  | [p], _ => by
    obtain ⟨y, ys', rfl⟩ := List.exists_cons_of_ne_nil hys
    simp [joinDots_cons_cons, orMark_eq]
  | p :: x :: xs, _ => by
    show joinDots (p :: x :: (xs ++ orWord :: ys)) = _
    rw [joinDots_cons_cons, ← List.cons_append,
      joinDots_append_orWord hys (List.cons_ne_nil x xs), joinDots_cons_cons]
    simp

/-- The segments of `x.OR.y`: those of `x`, the word `OR`, and those of `y`. -/
theorem segments_or (x y : Text) :
    segments (x ++ orMark ++ y) = segments x ++ orWord :: segments y := by
  have hxy : x ++ orMark ++ y = x ++ dot :: (orWord ++ dot :: y) := by simp [orMark_eq]
  rw [hxy, segments, splitOn_append_cons, splitOn_append_cons,
    splitOn_of_not_mem dot_not_mem_orWord]
  rfl

-- ============================================================ the first mark

/-- A dot that opens dotted text opens a `.OR.` mark exactly when the first segment after it
is `OR` and a segment follows that one. -/
theorem breakOn_dot_joinDots {q : Text} {qs : List Text} (hq : dot ∉ q) :
    breakOn orMark (dot :: joinDots (q :: qs)) =
      if q = orWord ∧ qs ≠ [] then some ([], joinDots qs)
      else (breakOn orMark (joinDots (q :: qs))).map fun r => (dot :: r.1, r.2) := by
  rw [breakOn]
  rcases qs with _ | ⟨q', qs⟩
  · -- a last segment cannot hold the rest of a mark
    have hno : orMark.isPrefixOf (dot :: q) = false := by
      rw [Bool.eq_false_iff]
      intro hp
      have hp' : (orWord ++ [dot]).isPrefixOf q := by simpa [orMark_eq, List.isPrefixOf] using hp
      exact hq ((List.isPrefixOf_iff_prefix.1 hp').subset (by simp))
    simp [hno]
  · -- the mark is there exactly when the segment after the dot is `OR`
    rw [joinDots_cons_cons]
    rcases q with _ | ⟨a, _ | ⟨b, _ | ⟨c, r⟩⟩⟩
    · simp [orMark_eq, orWord, dot]
    · simp [orMark_eq, orWord, dot]
    · by_cases hab : a = .scalar 'O' ∧ b = .scalar 'R'
      · obtain ⟨rfl, rfl⟩ := hab
        simp [orMark_eq, orWord, dot, List.isPrefixOf]
      · have hba : ¬ (CodePoint.scalar 'O' = a ∧ CodePoint.scalar 'R' = b) :=
          fun h => hab ⟨h.1.symm, h.2.symm⟩
        simp [orMark_eq, orWord, dot, List.isPrefixOf, hab, hba]
    · have hc : c ≠ dot := fun e => hq (by simp [e])
      simp_all [orMark_eq, orWord, dot, List.isPrefixOf]

/-- Dotted text holds no `.OR.` mark when no inner segment is `OR`. -/
theorem breakOn_joinDots_eq_none :
    ∀ {ps : List Text}, (∀ s ∈ ps, dot ∉ s) → orWord ∉ ps.tail.dropLast →
      breakOn orMark (joinDots ps) = none
  | [], _, _ => rfl
  | [p], h, _ => by
    have hp := @breakOn_append_of_not_mem _ _ dot (orWord ++ [dot]) p [] (h p List.mem_cons_self)
    rw [List.append_nil, breakOn_nil] at hp
    simpa [orMark_eq] using hp
  | p :: q :: qs, h, hor => by
    have hp : dot ∉ p := h p List.mem_cons_self
    have hq : dot ∉ q := h q (by simp)
    have hnot : ¬ (q = orWord ∧ qs ≠ []) := by
      rintro ⟨rfl, hqs⟩
      exact hor (by simp [List.dropLast_cons_of_ne_nil hqs])
    have ih : breakOn orMark (joinDots (q :: qs)) = none :=
      breakOn_joinDots_eq_none (fun s hs => h s (List.mem_cons_of_mem p hs))
        (fun m => hor (by cases qs <;> simp_all))
    rw [joinDots_cons_cons, orMark_eq, breakOn_append_of_not_mem _ hp, ← orMark_eq,
      breakOn_dot_joinDots hq, if_neg hnot, ih]
    rfl

/-- The first `.OR.` mark of dotted text stands at its first inner segment `OR`. -/
theorem breakOn_joinDots_append {ys : List Text} (hys : ys ≠ []) (hy : ∀ s ∈ ys, dot ∉ s) :
    ∀ {xs : List Text}, xs ≠ [] → (∀ s ∈ xs, dot ∉ s) → orWord ∉ xs.tail →
      breakOn orMark (joinDots (xs ++ orWord :: ys)) = some (joinDots xs, joinDots ys)
  | [p], _, h, _ => by
    have hp : dot ∉ p := h p List.mem_cons_self
    rw [List.singleton_append, joinDots_cons_cons, orMark_eq, breakOn_append_of_not_mem _ hp,
      ← orMark_eq, breakOn_dot_joinDots dot_not_mem_orWord, if_pos ⟨rfl, hys⟩]
    simp
  | p :: x :: xs, _, h, hor => by
    have hp : dot ∉ p := h p List.mem_cons_self
    have hx : dot ∉ x := h x (by simp)
    have hxo : ¬ (x = orWord ∧ xs ++ orWord :: ys ≠ []) := fun hx' => hor (by simp [hx'.1])
    have ih := breakOn_joinDots_append hys hy (List.cons_ne_nil x xs)
      (fun s hs => h s (List.mem_cons_of_mem p hs)) (fun m => hor (List.mem_cons_of_mem x m))
    show breakOn orMark (joinDots (p :: x :: (xs ++ orWord :: ys))) = _
    rw [joinDots_cons_cons, orMark_eq, breakOn_append_of_not_mem _ hp, ← orMark_eq,
      breakOn_dot_joinDots hx, if_neg hxo, ← List.cons_append, ih]
    rfl

-- ============================================================ alternatives

/-- An alternative: an address none of whose segments after the first is `OR`. It holds no
`.OR.` mark and does not end in `.OR`, so a mark written after it is the first one. -/
def IsAlternative (a : Text) : Prop := orWord ∉ (segments a).tail

instance : DecidablePred IsAlternative :=
  fun a => inferInstanceAs (Decidable (orWord ∉ (segments a).tail))

/-- An alternative is its own first alternative, with nothing after it. -/
theorem firstAlternative_of_isAlternative {x : Text} (hx : IsAlternative x) :
    firstAlternative x = (x, none) := by
  have hnone : breakOn orMark x = none := by
    rw [← joinDots_segments x]
    exact breakOn_joinDots_eq_none (fun s hs => dot_not_mem_of_mem_segments hs)
      (fun m => hx (List.dropLast_subset _ m))
  simp [firstAlternative, hnone]

/-- A mark written after an alternative cuts `x.OR.y` into `x` and `y`. -/
theorem firstAlternative_or {x : Text} (hx : IsAlternative x) (y : Text) :
    firstAlternative (x ++ orMark ++ y) = (x, some y) := by
  have hsome : breakOn orMark (x ++ orMark ++ y) = some (x, y) := by
    have hjoin := joinDots_append_orWord (segments_ne_nil y) (segments_ne_nil x)
    rw [joinDots_segments, joinDots_segments] at hjoin
    rw [← hjoin, breakOn_joinDots_append (segments_ne_nil y)
      (fun s hs => dot_not_mem_of_mem_segments hs) (segments_ne_nil x)
      (fun s hs => dot_not_mem_of_mem_segments hs) hx, joinDots_segments, joinDots_segments]
  unfold firstAlternative
  rw [hsome]

/-- The first segment of an address. -/
def first (a : Text) : Text := (segments a).headD []

/-- An address whose first segment is no keyword is a path to look up. -/
def IsPath (a : Text) : Prop := Keyword.ofSegment? (first a) = none

instance : DecidablePred IsPath :=
  fun a => inferInstanceAs (Decidable (Keyword.ofSegment? (first a) = none))

theorem first_of_segments {a h : Text} {payload : List Text} (hs : segments a = h :: payload) :
    first a = h := by
  simp [first, hs]

/-- `x.OR.y` begins with the segment `x` begins with. -/
theorem first_or (x y : Text) : first (x ++ orMark ++ y) = first x := by
  obtain ⟨h, hs, hx⟩ := List.exists_cons_of_ne_nil (segments_ne_nil x)
  have hsor : segments (x ++ orMark ++ y) = h :: (hs ++ orWord :: segments y) := by
    rw [segments_or, hx, List.cons_append]
  rw [first_of_segments hx, first_of_segments hsor]

/-- The path before the first mark begins with the segment the address begins with. -/
theorem first_firstAlternative (a : Text) : first (firstAlternative a).1 = first a := by
  unfold firstAlternative
  split
  · rfl
  · rename_i b r hb
    rw [← breakOn_eq_some hb, first_or]

set_option linter.unusedVariables false in
/-- The alternatives of an address: the pieces its `.OR.` marks cut it into, in order. -/
def alternatives (a : Text) : List Text :=
  match h : firstAlternative a with
  | (p, none) => [p]
  | (p, some r) => p :: alternatives r
termination_by a.length
decreasing_by exact length_alternative_lt (by rw [h])

theorem alternatives_of_none {a p : Text} (h : firstAlternative a = (p, none)) :
    alternatives a = [p] := by
  rw [alternatives]
  split <;> simp_all

theorem alternatives_of_some {a p r : Text} (h : firstAlternative a = (p, some r)) :
    alternatives a = p :: alternatives r := by
  rw [alternatives]
  split <;> simp_all

/-- The first segments of the alternatives of an address. -/
def heads (a : Text) : List Text := (alternatives a).map first

/-- An address begins with the first segment of its first alternative. -/
theorem first_mem_heads (a : Text) : first a ∈ heads a := by
  rw [heads, ← first_firstAlternative]
  rcases h : firstAlternative a with ⟨p, _ | r⟩
  · simp [alternatives_of_none h]
  · simp [alternatives_of_some h]

/-- The alternatives after the first mark are among those of the address. -/
theorem heads_subset_of_some {a p r : Text} (h : firstAlternative a = (p, some r)) :
    heads r ⊆ heads a := by
  intro n hn
  rw [heads, alternatives_of_some h]
  exact List.mem_cons_of_mem _ hn

/-- An address has at least one alternative. -/
theorem alternatives_ne_nil (a : Text) : alternatives a ≠ [] := by
  rcases h : firstAlternative a with ⟨p, _ | r⟩
  · simp [alternatives_of_none h]
  · simp [alternatives_of_some h]

/-- An address with no mark is its own first alternative. -/
theorem firstAlternative_of_snd_none {a : Text} (h : (firstAlternative a).2 = none) :
    firstAlternative a = (a, none) := by
  unfold firstAlternative at h ⊢
  split
  · rfl
  · rename_i b rest hb
    rw [hb] at h
    cases h

/-- Keys that hold no dot, with no inner key `OR`, joined by dots: the address cuts back into the
same keys, and holds no `.OR.` mark. -/
theorem firstAlternative_joinDots {ps : List Text} (hne : ps ≠ [])
    (hdot : ∀ s ∈ ps, dot ∉ s) (hor : orWord ∉ ps.tail.dropLast) :
    segments (joinDots ps) = ps ∧
      firstAlternative (joinDots ps) = (joinDots ps, none) := by
  refine ⟨segments_joinDots hne hdot, ?_⟩
  have hnone := breakOn_joinDots_eq_none hdot hor
  simp [firstAlternative, hnone]

end Remap.Address
