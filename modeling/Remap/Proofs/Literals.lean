import Remap.Proofs.Faults
/-!
What a literal reads of its address.

A keyword reads its payload from the segments of the address, at fixed places: the first segment
after the keyword, and for a decimal the one after that as its fraction. The rest of the payload
is never read. An address `K.p` therefore resolves as `K.q` does, where `q` is the first segment
of `p` (the first two for `FLOAT`), whenever no segment of `p` is `OR`
(`resolve_literal_reads_prefix`): `STRING.a.b` is the text `a`.

An integer or decimal literal whose payload cannot be read falls back when its payload holds a
segment `OR` and has enough segments: three or more for an integer, two or more for a decimal.
It falls back to the segments after the first segment `OR`, joined by dots. That segment is
never the keyword, so when a segment follows it, it is the first `.OR.` mark of the address, and
the literal falls back to exactly the address after the mark, as a path does
(`firstAlternative_snd_eq`, `resolve_unreadable_fallback`). When it is the last segment, the
address holds no mark, and the literal still falls back, to the empty address.
-/

namespace Remap

namespace Address

-- ============================================================ the first segment `OR`

/-- The segments after the first segment equal to a word follow the segments before it, none of
which is the word. -/
theorem eq_append_of_after {w : Text} :
    ∀ {l t : List Text}, after w l = some t → ∃ pre, l = pre ++ w :: t ∧ w ∉ pre
  | [], _, h => by simp [after] at h
  | s :: rest, t, h => by
    unfold after at h
    split at h
    · rename_i hs
      obtain rfl : rest = t := Option.some.inj h
      exact ⟨[], by simp [hs], List.not_mem_nil⟩
    · rename_i hs
      obtain ⟨pre, rfl, hpre⟩ := eq_append_of_after h
      refine ⟨s :: pre, rfl, ?_⟩
      rw [List.mem_cons, not_or]
      exact ⟨fun e => hs e.symm, hpre⟩

/-- Without the word among the segments, there is nothing after it. -/
theorem not_mem_of_after_eq_none {w : Text} : ∀ {l : List Text}, after w l = none → w ∉ l
  | [], _ => List.not_mem_nil
  | s :: rest, h => by
    unfold after at h
    split at h
    · cases h
    · rename_i hs
      rw [List.mem_cons, not_or]
      exact ⟨fun e => hs e.symm, not_mem_of_after_eq_none h⟩

/-- A payload with no segment `OR` never falls back. -/
theorem fallback?_of_not_mem {payload : List Text} (least : Nat) (h : orWord ∉ payload) :
    fallback? least payload = none := by
  unfold fallback?
  split
  · cases ha : after orWord payload with
    | none => rfl
    | some t => exact absurd (mem_of_after ha) h
  · rfl

/-- The address after the first mark is the segments after the first segment `OR` past the first
segment, joined by dots, provided a segment follows it; with no such segment `OR`, or with it
last, there is no mark. -/
theorem firstAlternative_snd_eq {a h : Text} {payload : List Text}
    (hs : segments a = h :: payload) :
    (firstAlternative a).2 =
      match after orWord payload with
      | some (y :: ys) => some (joinDots (y :: ys))
      | _ => none := by
  have hdot : ∀ s ∈ h :: payload, dot ∉ s := fun s hm =>
    dot_not_mem_of_mem_segments (hs ▸ hm)
  have ha : a = joinDots (h :: payload) := by rw [← hs, joinDots_segments]
  -- with no mark, the address is its own first alternative
  have hnone : orWord ∉ payload.dropLast → (firstAlternative a).2 = none := fun hor => by
    have hb := breakOn_joinDots_eq_none hdot hor
    rw [← ha] at hb
    simp [firstAlternative, hb]
  cases hafter : after orWord payload with
  | none => exact hnone fun m => not_mem_of_after_eq_none hafter (List.dropLast_subset _ m)
  | some t =>
    obtain ⟨pre, rfl, hpre⟩ := eq_append_of_after hafter
    cases t with
    | nil =>
      apply hnone
      rw [List.dropLast_concat]
      exact hpre
    | cons y ys =>
      have hb := breakOn_joinDots_append (List.cons_ne_nil y ys)
        (fun s hm => hdot s (by simp [hm])) (List.cons_ne_nil h pre)
        (fun s hm => hdot s (List.cons_subset_cons h (List.subset_append_left _ _) hm)) hpre
      rw [List.cons_append, ← ha] at hb
      simp [firstAlternative, hb]

end Address

-- ============================================================ falling back

section fallback

variable {src : Fields} {c : Call} {a h p : Text} {ps : List Text} {kw : Keyword} {least : Nat}

/-- An integer or decimal literal that cannot be read falls back where `fallback?` says, or
fails as unreadable. -/
theorem outcome_resolve_unreadable (hs : Address.segments a = h :: p :: ps)
    (hk : Keyword.ofSegment? h = some kw)
    (hfail : (kw = .integer ∧ least = 3 ∧ integerOf? p = none) ∨
      (kw = .decimal ∧ least = 2 ∧ decimalOf? (p :: ps) = none))
    (hroom : c.inner.HasWarnRoom) :
    (resolve src c a).outcome =
      match Address.fallback? least (p :: ps) with
      | some t => (resolve [] c.inner.inner (Address.joinDots t)).outcome.mapError (.fallbackFailed a)
      | none => .error (.literal a .unreadable) := by
  have hplain : c.inner.HasRoom := hroom.hasRoom
  rcases hfail with ⟨rfl, rfl, hn⟩ | ⟨rfl, rfl, hn⟩
  · rw [outcome_resolve_integer hs hk, if_pos (Call.hasRoom_of_inner hplain), if_pos hplain]
    -- the two matches are of different statements: take the fallback's cases first
    cases Address.fallback? 3 (p :: ps) with
    | some t => simp only [hn, if_pos hroom]
    | none => simp only [hn, if_pos hroom]
  · rw [outcome_resolve_decimal hs hk, if_pos (Call.hasRoom_of_inner hplain), if_pos hplain]
    cases Address.fallback? 2 (p :: ps) with
    | some t => simp only [hn, if_pos hroom]
    | none => simp only [hn, if_pos hroom]

/-- An integer or decimal literal that cannot be read, with room to form it and to log the
warning or the error line that follows. With enough
segments (three after the keyword for an integer, two for a decimal) it falls back: to exactly
the address after the first `.OR.` mark, the one a path would fall back to, and, when there is no
mark, to the empty address if the payload's one segment `OR` is its last. Otherwise it fails as
unreadable. -/
theorem resolve_unreadable_fallback (hs : Address.segments a = h :: p :: ps)
    (hk : Keyword.ofSegment? h = some kw)
    (hfail : (kw = .integer ∧ least = 3 ∧ integerOf? p = none) ∨
      (kw = .decimal ∧ least = 2 ∧ decimalOf? (p :: ps) = none))
    (hroom : c.inner.HasWarnRoom) :
    (resolve src c a).outcome =
      if least ≤ (p :: ps).length then
        match (Address.firstAlternative a).2 with
        | some r => (resolve [] c.inner.inner r).outcome.mapError (.fallbackFailed a)
        | none =>
          if (p :: ps).getLast? = some Address.orWord ∧ Address.orWord ∉ (p :: ps).dropLast then
            (resolve [] c.inner.inner []).outcome.mapError (.fallbackFailed a)
          else .error (.literal a .unreadable)
      else .error (.literal a .unreadable) := by
  rw [outcome_resolve_unreadable hs hk hfail hroom, Address.firstAlternative_snd_eq hs,
    Address.fallback?]
  by_cases hlen : least ≤ (p :: ps).length
  · rw [if_pos hlen, if_pos hlen]
    cases hafter : Address.after Address.orWord (p :: ps) with
    | none =>
      -- no segment `OR`: nothing to fall back to, and no last one
      have hno := Address.not_mem_of_after_eq_none hafter
      have hlast : ¬ ((p :: ps).getLast? = some Address.orWord ∧
          Address.orWord ∉ (p :: ps).dropLast) :=
        fun hl => hno (List.mem_of_getLast? hl.1)
      rw [if_neg hlast]
    | some t =>
      obtain ⟨pre, hpre, hnot⟩ := Address.eq_append_of_after hafter
      cases t with
      | nil =>
        -- the one segment `OR` is the last: the fallback address is empty
        have hlast : (p :: ps).getLast? = some Address.orWord ∧
            Address.orWord ∉ (p :: ps).dropLast := by
          rw [hpre, List.getLast?_concat, List.dropLast_concat]
          exact ⟨rfl, hnot⟩
        rw [if_pos hlast]
        rfl
      | cons y ys => rfl
  · rw [if_neg hlen, if_neg hlen]

end fallback

/-- `INT.x.OR.y`: the integer `x` cannot be read, and the literal falls back to `y`, the address
after the mark, resolved two calls deeper with no sources. -/
theorem resolve_unreadable_fallback_integer :
    Address.segments (Text.ofString "INT.x.OR.y") =
        [Text.ofString "INT", Text.ofString "x", Address.orWord, Text.ofString "y"] ∧
      Keyword.ofSegment? (Text.ofString "INT") = some .integer ∧
      ((Keyword.integer = .integer ∧ 3 = 3 ∧ integerOf? (Text.ofString "x") = none) ∨
        (Keyword.integer = .decimal ∧ 3 = 2 ∧
          decimalOf? [Text.ofString "x", Address.orWord, Text.ofString "y"] = none)) ∧
      Call.quiet.inner.HasWarnRoom ∧
      (resolve [] Call.quiet (Text.ofString "INT.x.OR.y")).outcome =
        (resolve [] Call.quiet.inner.inner (Text.ofString "y")).outcome.mapError
          (.fallbackFailed (Text.ofString "INT.x.OR.y")) := by
  have hs : Address.segments (Text.ofString "INT.x.OR.y") =
      [Text.ofString "INT", Text.ofString "x", Address.orWord, Text.ofString "y"] := by decide
  have hk : Keyword.ofSegment? (Text.ofString "INT") = some .integer := by decide
  have hfail : (Keyword.integer = .integer ∧ 3 = 3 ∧ integerOf? (Text.ofString "x") = none) ∨
      (Keyword.integer = .decimal ∧ 3 = 2 ∧
        decimalOf? [Text.ofString "x", Address.orWord, Text.ofString "y"] = none) :=
    .inl ⟨rfl, rfl, by decide⟩
  have hroom : Call.quiet.inner.HasWarnRoom := by decide
  have hafter : Address.after Address.orWord [Text.ofString "x", Address.orWord, Text.ofString "y"] =
      some [Text.ofString "y"] := by decide
  refine ⟨hs, hk, hfail, hroom, ?_⟩
  rw [resolve_unreadable_fallback hs hk hfail hroom, if_pos (by decide),
    Address.firstAlternative_snd_eq hs, hafter]
  rfl

/-- `FLOAT.x.OR` holds no `.OR.` mark, yet its unreadable decimal falls back, to the empty
address, which names no source: the address fails with the fallback's missing key, not as an
unreadable literal. -/
theorem resolve_float_trailing_or :
    (Address.firstAlternative (Text.ofString "FLOAT.x.OR")).2 = none ∧
      (resolve [] Call.quiet (Text.ofString "FLOAT.x.OR")).outcome =
        .error (.fallbackFailed (Text.ofString "FLOAT.x.OR") (.missingKey [])) := by
  have hs : Address.segments (Text.ofString "FLOAT.x.OR") =
      [Text.ofString "FLOAT", Text.ofString "x", Address.orWord] := by decide
  refine ⟨?_, ?_⟩
  · rw [Address.firstAlternative_snd_eq hs]
    rfl
  rw [outcome_resolve_unreadable hs (by decide) (.inr ⟨rfl, rfl, by decide⟩) (by decide)]
  have hfb : Address.fallback? 2 [Text.ofString "x", Address.orWord] = some [] := by decide
  have hempty : Address.joinDots [] = [] := rfl
  rw [hfb]
  dsimp only
  rw [hempty, outcome_resolve_missing (by decide) (by decide) rfl, if_pos (by decide)]
  rfl

-- ============================================================ reading the payload

/-- A decimal reads its whole part and at most one segment after it. -/
theorem decimalOf?_take (q : Text) (qs : List Text) :
    decimalOf? (q :: qs) = decimalOf? (q :: qs.take 1) := by
  cases qs <;> rfl

/-- A literal reads of its payload only the first segment, the first two for a decimal: when no
segment of the payload is `OR`, `K.p` gives a value exactly when `K.q` does, and the same one,
where `q` is those first segments of `p`. -/
theorem resolve_literal_reads_prefix {src : Fields} {c : Call} {a h q : Text} {qs : List Text}
    {kw : Keyword} (hs : Address.segments a = h :: q :: qs) (hk : Keyword.ofSegment? h = some kw)
    (hlit : kw.formsLiteral = true) (hor : Address.orWord ∉ q :: qs) :
    (resolve src c a).outcome.toOption =
      (resolve src c (Address.joinDots
        (h :: (q :: qs).take (if kw = .decimal then 2 else 1)))).outcome.toOption := by
  have hdot : ∀ s ∈ h :: q :: qs, Address.dot ∉ s := fun s hm =>
    Address.dot_not_mem_of_mem_segments (hs ▸ hm)
  -- the address of the first segments cuts back into them
  have hs' : ∀ n, Address.segments (Address.joinDots (h :: (q :: qs).take n)) =
      h :: (q :: qs).take n := fun n =>
    Address.segments_joinDots (List.cons_ne_nil _ _)
      (fun s hm => hdot s (List.cons_subset_cons h (List.take_subset n _) hm))
  have hor' : ∀ n, Address.orWord ∉ (q :: qs).take n := fun n m => hor (List.take_subset n _ m)
  cases kw with
  | null => cases hlit
  | skip => cases hlit
  | text =>
    rw [if_neg (by decide), outcome_resolve_text hs hk, outcome_resolve_text (hs' 1) hk]
    exact toOption_literal_frame rfl
  | list =>
    rw [if_neg (by decide), outcome_resolve_list hs hk, outcome_resolve_list (hs' 1) hk]
    exact toOption_literal_frame rfl
  | truth =>
    rw [if_neg (by decide), outcome_resolve_truth hs hk, outcome_resolve_truth (hs' 1) hk]
    refine toOption_literal_frame ?_
    dsimp only [List.take]
    cases truthOf? q with
    | some b => rfl
    | none => simp only [toOption_ite_error]
  | integer =>
    -- no segment `OR`, so neither address falls back
    rw [if_neg (by decide), outcome_resolve_integer hs hk, outcome_resolve_integer (hs' 1) hk,
      Address.fallback?_of_not_mem 3 hor, Address.fallback?_of_not_mem 3 (hor' _)]
    refine toOption_literal_frame ?_
    dsimp only [List.take]
    cases integerOf? q with
    | some n => rfl
    | none => simp only [toOption_ite_error]
  | decimal =>
    -- the fraction is the only segment read after the whole part
    have hs2 : Address.segments (Address.joinDots (h :: q :: qs.take 1)) = h :: q :: qs.take 1 :=
      hs' 2
    rw [if_pos rfl, List.take_succ_cons, outcome_resolve_decimal hs hk, outcome_resolve_decimal hs2 hk,
      decimalOf?_take q qs, Address.fallback?_of_not_mem 2 hor,
      Address.fallback?_of_not_mem 2 (show Address.orWord ∉ q :: qs.take 1 from hor' 2)]
    refine toOption_literal_frame ?_
    dsimp only
    cases decimalOf? (q :: qs.take 1) with
    | some x => rfl
    | none => simp only [toOption_ite_error]

/-- `INT.3.14` reads only its first segment: it gives what `INT.3` gives. -/
theorem resolve_literal_reads_prefix_integer :
    Address.segments (Text.ofString "INT.3.14") =
        [Text.ofString "INT", Text.ofString "3", Text.ofString "14"] ∧
      Keyword.ofSegment? (Text.ofString "INT") = some .integer ∧
      Keyword.integer.formsLiteral = true ∧
      Address.orWord ∉ [Text.ofString "3", Text.ofString "14"] ∧
      (resolve [] Call.quiet (Text.ofString "INT.3.14")).outcome.toOption =
        (resolve [] Call.quiet (Address.joinDots (Text.ofString "INT" ::
          [Text.ofString "3", Text.ofString "14"].take
            (if Keyword.integer = .decimal then 2 else 1)))).outcome.toOption := by
  have hs : Address.segments (Text.ofString "INT.3.14") =
      [Text.ofString "INT", Text.ofString "3", Text.ofString "14"] := by decide
  have hk : Keyword.ofSegment? (Text.ofString "INT") = some .integer := by decide
  have hor : Address.orWord ∉ [Text.ofString "3", Text.ofString "14"] := by decide
  exact ⟨hs, hk, rfl, hor, resolve_literal_reads_prefix hs hk rfl hor⟩

/-- `STRING.a.b` is the text `a`: the segment `b` of its payload is dropped. -/
theorem resolve_string_drops_tail :
    (resolve [] Call.quiet (Text.ofString "STRING.a.b")).outcome = .ok (.str (Text.ofString "a")) := by
  have hs : Address.segments (Text.ofString "STRING.a.b") =
      [Text.ofString "STRING", Text.ofString "a", Text.ofString "b"] := by decide
  rw [outcome_resolve_text hs (by decide), if_pos (by decide), if_pos (by decide)]

end Remap
