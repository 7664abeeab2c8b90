import Remap.Proofs.Outcome
/-!
The `.OR.` fallback.

`x.OR.y` is an alternative `x` (`Address.IsAlternative`), a `.OR.` mark and any address `y`. How
it resolves depends on what kind of address `x` is.

* A path (`outcome_or_of_isPath`) is looked up, and only a missing key hands over to `y`,
  which is resolved two calls deeper; any other failure of the lookup, such as a key applied to a
  value without fields, is the failure of the whole address. A chain of path alternatives is then
  tried in order (`outcome_intercalate_or`): the first alternative whose lookup misses no key
  decides (`orChain`), and only the last may be of any kind.
* A keyword reads the segments after it as its payload, and for `x.OR.y` these go on with the
  word `OR` and the segments of `y`. What a keyword reads from its payload sits at its front, so
  whatever `x` resolves to, `x.OR.y` resolves to as well (`outcome_or_of_ok`); the one exception
  is `LIST` alone, whose empty payload becomes the payload `OR`. A `STRING`, `LIST` or `BOOL`
  literal with a payload never falls back: `x.OR.y` fails exactly when `x` does
  (`toOption_or_of_literal`).

An `INT` or `FLOAT` literal whose payload cannot be read falls back to `y` on its own terms,
resolved without the sources; nothing here depends on that branch.
-/

namespace Remap

-- ============================================================ keywords

theorem Text.eq_map_scalar_of_mapM :
    ∀ {t : Text} {cs : List Char}, t.mapM CodePoint.toChar? = some cs → t = cs.map .scalar
  | [], cs, h => by
    simp at h
    simp [← h]
  | .surrogate k :: t, cs, h => by simp [List.mapM_cons, CodePoint.toChar?] at h
  | .scalar ch :: t, cs, h => by
    cases ht : t.mapM CodePoint.toChar? with
    | none => simp [List.mapM_cons, CodePoint.toChar?, ht] at h
    | some ds =>
      simp only [List.mapM_cons, CodePoint.toChar?, ht] at h
      cases h
      simp [Text.eq_map_scalar_of_mapM ht]

/-- A text with the string of a word is that word. -/
theorem Text.eq_ofString_of_toString? {t : Text} {s : String} (h : Text.toString? t = some s) :
    t = Text.ofString s := by
  obtain ⟨cs, hcs, rfl⟩ := Option.map_eq_some_iff.1 h
  simp [Text.ofString, Text.eq_map_scalar_of_mapM hcs]

/-- The segment that spells `LIST` is the word `LIST`. -/
theorem Keyword.eq_of_ofSegment?_list {h : Text} (hk : Keyword.ofSegment? h = some .list) :
    h = Text.ofString "LIST" := by
  obtain ⟨w, hw, hk⟩ := Option.bind_eq_some_iff.1 hk
  unfold Keyword.ofWord? at hk
  split at hk <;> simp_all [Text.eq_ofString_of_toString? hw]

theorem digitText?_orWord : digitText? Address.orWord = none := by decide

/-- A decimal literal reads at most two segments, and a segment `OR` is no digit text, so a
mark and more segments after the payload change nothing. -/
theorem decimalOf?_append_orWord {px : List Text} (hpx : px ≠ []) (ys : List Text) :
    decimalOf? (px ++ Address.orWord :: ys) = decimalOf? px := by
  obtain ⟨w, rest, rfl⟩ := List.exists_cons_of_ne_nil hpx
  cases rest with
  | nil => simp [decimalOf?, digitText?_orWord]
  | cons f rest => simp [decimalOf?]

/-- A word found among segments is one of them. -/
theorem Address.mem_of_after {w : Text} : ∀ {l t : List Text}, after w l = some t → w ∈ l
  | [], _, h => by simp [after] at h
  | s :: rest, t, h => by
    unfold after at h
    split at h
    · rename_i hs
      simp [hs]
    · exact List.mem_cons_of_mem s (Address.mem_of_after h)

/-- An alternative's payload holds no segment `OR`, so its literal never falls back. -/
theorem Address.fallback?_of_isAlternative {x h : Text} {px : List Text} (least : Nat)
    (hx : IsAlternative x) (hs : segments x = h :: px) : fallback? least px = none := by
  unfold fallback?
  split
  · cases ha : after orWord px with
    | none => rfl
    | some t =>
      refine absurd (Address.mem_of_after ha) ?_
      simpa [IsAlternative, hs] using hx
  · rfl

-- ============================================================ paths

/-- A path lookup fails only by a key applied to a value without fields, or by going too deep;
a missing key is no failure of the lookup itself. -/
theorem descend_ne_missingKey (c : Call) (a : Text) :
    ∀ (v : Value) (ks : List Text), (descend c v ks).outcome ≠ .error (.missingKey a)
  | v, [] => by simp
  | v, k :: ks => by
    rw [outcome_descend_cons]
    split
    · cases v with
      | obj fs =>
        cases hf : Value.field? fs k with
        | some w => simpa [hf] using descend_ne_missingKey c a w ks
        | none => simp [hf]
      | _ => simp
    · simp

theorem findPath_ne_missingKey (src : Fields) (c : Call) (path a : Text) :
    (findPath src c path).outcome ≠ .error (.missingKey a) := by
  obtain ⟨k, ks, hs⟩ := List.exists_cons_of_ne_nil (Address.segments_ne_nil path)
  rw [outcome_findPath hs]
  cases Value.field? src k with
  | none => simp
  | some v => exact descend_ne_missingKey c a v ks

section fallback

variable {src : Fields} {c : Call} {x y : Text}

/-- After a path alternative, `.OR.` hands over to the address after it exactly when a key of
the path is missing; the address after it is resolved two calls deeper. -/
theorem outcome_or_of_isPath (hx : Address.IsAlternative x) (hp : Address.IsPath x) :
    (resolve src c (x ++ Address.orMark ++ y)).outcome =
      match (resolve src c x).outcome with
      | .error (.missingKey _) => (resolve src c.inner.inner y).outcome
      | o => o := by
  obtain ⟨h, px, hs⟩ := List.exists_cons_of_ne_nil (Address.segments_ne_nil x)
  have hk : Keyword.ofSegment? h = none := by
    simpa [Address.IsPath, Address.first_of_segments hs] using hp
  have hsor : Address.segments (x ++ Address.orMark ++ y) =
      h :: (px ++ Address.orWord :: Address.segments y) := by
    rw [Address.segments_or, hs, List.cons_append]
  rw [outcome_resolve_path hsor hk, outcome_resolve_path hs hk,
    Address.firstAlternative_or hx, Address.firstAlternative_of_isAlternative hx]
  by_cases hc : c.HasRoom
  · simp only [hc, if_true]
    cases hf : (findPath src c.inner x).outcome with
    | error f =>
      -- the lookup itself never reports a missing key
      cases f with
      | missingKey b => exact absurd hf (findPath_ne_missingKey src c.inner x b)
      | _ => rfl
    | ok o =>
      cases o with
      | some v => rfl
      | none =>
        -- the fallback's warning and the failure's error line need the same room
        by_cases hw : c.inner.HasWarnRoom
        case pos => simp [hw]
        case neg => simp [hw]
  · simp [hc]

/-- The segments of `x.OR.y` go on from those of `x`. -/
theorem segments_or_of_segments {h : Text} {px : List Text} (hs : Address.segments x = h :: px) :
    Address.segments (x ++ Address.orMark ++ y) = h :: (px ++ Address.orWord :: Address.segments y) := by
  rw [Address.segments_or, hs, List.cons_append]

/-- Whatever an alternative resolves to, `x.OR.y` resolves to as well, unless `x` is `LIST`
alone. -/
theorem outcome_or_of_ok {r : Value} (hx : Address.IsAlternative x)
    (hl : x ≠ Text.ofString "LIST") (hr : (resolve src c x).outcome = .ok r) :
    (resolve src c (x ++ Address.orMark ++ y)).outcome = .ok r := by
  obtain ⟨h, px, hs⟩ := List.exists_cons_of_ne_nil (Address.segments_ne_nil x)
  have hsor := segments_or_of_segments (y := y) hs
  cases hk : Keyword.ofSegment? h with
  | none =>
    have hp : Address.IsPath x := by simpa [Address.IsPath, Address.first_of_segments hs] using hk
    rw [outcome_or_of_isPath hx hp, hr]
  | some kw =>
    cases kw with
    | null => rwa [outcome_resolve_null hsor hk, ← outcome_resolve_null hs hk]
    | skip => rwa [outcome_resolve_skip hsor hk, ← outcome_resolve_skip hs hk]
    | text =>
      obtain ⟨hc, hi, hr⟩ := ok_of_literal_frame ((outcome_resolve_text hs hk).symm.trans hr)
      rw [outcome_resolve_text hsor hk, if_pos hc, if_pos hi]
      cases px with
      | nil => cases hr
      | cons p ps => exact hr
    | list =>
      -- `LIST` alone is excluded, so the list literal has a payload
      have hpx : px ≠ [] := by
        rintro rfl
        apply hl
        rw [← Address.joinDots_segments x, hs, Address.joinDots_singleton]
        exact Keyword.eq_of_ofSegment?_list hk
      obtain ⟨hc, hi, hr⟩ := ok_of_literal_frame ((outcome_resolve_list hs hk).symm.trans hr)
      rw [outcome_resolve_list hsor hk, if_pos hc, if_pos hi]
      cases px with
      | nil => exact absurd rfl hpx
      | cons p ps => exact hr
    | truth =>
      obtain ⟨hc, hi, hr⟩ := ok_of_literal_frame ((outcome_resolve_truth hs hk).symm.trans hr)
      rw [outcome_resolve_truth hsor hk, if_pos hc, if_pos hi]
      cases px with
      | nil => cases hr
      | cons p ps =>
        cases hb : truthOf? p with
        | some b => simpa [hb] using hr
        | none =>
          simp only [hb] at hr
          split at hr <;> cases hr
    | integer =>
      -- an alternative has no segment `OR` after its keyword, so its literal never falls back
      have hfb := Address.fallback?_of_isAlternative 3 hx hs
      obtain ⟨hc, hi, hr⟩ := ok_of_literal_frame ((outcome_resolve_integer hs hk).symm.trans hr)
      rw [outcome_resolve_integer hsor hk, if_pos hc, if_pos hi]
      cases px with
      | nil => cases hr
      | cons p ps =>
        cases hn : integerOf? p with
        | some n => simpa [hn] using hr
        | none =>
          simp only [hn, hfb] at hr
          split at hr <;> cases hr
    | decimal =>
      have hfb := Address.fallback?_of_isAlternative 2 hx hs
      obtain ⟨hc, hi, hr⟩ := ok_of_literal_frame ((outcome_resolve_decimal hs hk).symm.trans hr)
      rw [outcome_resolve_decimal hsor hk, if_pos hc, if_pos hi]
      cases px with
      | nil => cases hr
      | cons p ps =>
        -- the mark and the segments after it lie past what a decimal reads
        rw [decimalOf?_append_orWord (List.cons_ne_nil p ps)]
        cases hd : decimalOf? (p :: ps) with
        | some d => simpa [hd] using hr
        | none =>
          simp only [hd, hfb] at hr
          split at hr <;> cases hr

/-- A `STRING`, `LIST` or `BOOL` literal with a payload never falls back: `x.OR.y` gives a value
exactly when `x` does, and the same one. Its payload need not even be an alternative. -/
theorem toOption_or_of_literal {kw : Keyword} (hk : Keyword.ofSegment? (Address.first x) = some kw)
    (hkw : kw = .text ∨ kw = .list ∨ kw = .truth) (hpx : (Address.segments x).tail ≠ []) :
    (resolve src c (x ++ Address.orMark ++ y)).outcome.toOption =
      (resolve src c x).outcome.toOption := by
  obtain ⟨h, px, hs⟩ := List.exists_cons_of_ne_nil (Address.segments_ne_nil x)
  have hsor := segments_or_of_segments (y := y) hs
  rw [Address.first_of_segments hs] at hk
  obtain ⟨p, ps, rfl⟩ := List.exists_cons_of_ne_nil (by simpa [hs] using hpx)
  -- both read the same first segment after the keyword
  rcases hkw with rfl | rfl | rfl
  · rw [outcome_resolve_text hs hk, outcome_resolve_text hsor hk]
    exact toOption_literal_frame rfl
  · rw [outcome_resolve_list hs hk, outcome_resolve_list hsor hk]
    exact toOption_literal_frame rfl
  · rw [outcome_resolve_truth hs hk, outcome_resolve_truth hsor hk]
    refine toOption_literal_frame ?_
    dsimp only [List.cons_append]
    cases truthOf? p with
    | some b => rfl
    | none => simp only [toOption_ite_error]

end fallback

-- ============================================================ chains

/-- Path alternatives tried in turn, each two calls deeper than the one before, and an address
of any kind after them: the first alternative whose lookup misses no key decides. -/
def orChain (src : Fields) : Call → List Text → Text → Except Fault Value
  | c, [], last => (resolve src c last).outcome
  | c, g :: gs, last =>
    match (resolve src c g).outcome with
    | .error (.missingKey _) => orChain src c.inner.inner gs last
    | o => o

/-- A chain `g₀.OR.g₁.OR.⋯.OR.last` of path alternatives resolves as `orChain` tries them. -/
theorem outcome_intercalate_or {src : Fields} {last : Text} :
    ∀ {c : Call} {gs : List Text}, (∀ g ∈ gs, Address.IsAlternative g ∧ Address.IsPath g) →
      (resolve src c (Address.orMark.intercalate (gs ++ [last]))).outcome = orChain src c gs last
  | c, [], _ => by simp [orChain]
  | c, g :: gs, h => by
    obtain ⟨l, ls, hl⟩ := List.exists_cons_of_ne_nil (List.concat_ne_nil last gs)
    have ih := @outcome_intercalate_or src last c.inner.inner gs
      (fun g' hg' => h g' (List.mem_cons_of_mem g hg'))
    rw [List.cons_append, hl, List.intercalate_cons_cons, ← hl,
      outcome_or_of_isPath (h g List.mem_cons_self).1 (h g List.mem_cons_self).2, ih, orChain]

-- ============================================================ the fallback law

/-- How `x.OR.y` resolves for an alternative `x`: a path hands over to `y` on a missing key
only, two calls deeper; a literal that gives a value gives it still, `LIST` alone apart; a
`STRING`, `LIST` or `BOOL` literal with a payload never hands over; and a chain of path
alternatives is decided by the first of them whose lookup misses no key. -/
theorem resolve_or_fallback :
    (∀ (src : Fields) (c : Call) (x y : Text), Address.IsAlternative x → Address.IsPath x →
      (resolve src c (x ++ Address.orMark ++ y)).outcome =
        match (resolve src c x).outcome with
        | .error (.missingKey _) => (resolve src c.inner.inner y).outcome
        | o => o) ∧
    (∀ (src : Fields) (c : Call) (x y : Text) (r : Value), Address.IsAlternative x →
      x ≠ Text.ofString "LIST" → (resolve src c x).outcome = .ok r →
      (resolve src c (x ++ Address.orMark ++ y)).outcome = .ok r) ∧
    (∀ (src : Fields) (c : Call) (x y : Text) (kw : Keyword),
      Keyword.ofSegment? (Address.first x) = some kw → (kw = .text ∨ kw = .list ∨ kw = .truth) →
      (Address.segments x).tail ≠ [] →
      (resolve src c (x ++ Address.orMark ++ y)).outcome.toOption =
        (resolve src c x).outcome.toOption) ∧
    (∀ (src : Fields) (c : Call) (gs : List Text) (last : Text),
      (∀ g ∈ gs, Address.IsAlternative g ∧ Address.IsPath g) →
      (resolve src c (Address.orMark.intercalate (gs ++ [last]))).outcome =
        orChain src c gs last) :=
  ⟨fun _ _ _ _ hx hp => outcome_or_of_isPath hx hp,
    fun _ _ _ _ _ hx hl hr => outcome_or_of_ok hx hl hr,
    fun _ _ _ _ _ hk hkw hpx => toOption_or_of_literal hk hkw hpx,
    fun _ _ _ _ h => outcome_intercalate_or h⟩

/-- The law at `b.OR.STRING.z`: `b` is a path alternative, so the address resolves as `b`
would unless `b` is missing, and then as `STRING.z` two calls deeper. -/
theorem resolve_or_fallback_missing :
    Address.IsAlternative (Text.ofString "b") ∧ Address.IsPath (Text.ofString "b") ∧
      (resolve [] Call.quiet (Text.ofString "b" ++ Address.orMark ++ Text.ofString "STRING.z")).outcome =
        match (resolve [] Call.quiet (Text.ofString "b")).outcome with
        | .error (.missingKey _) =>
          (resolve [] Call.quiet.inner.inner (Text.ofString "STRING.z")).outcome
        | o => o :=
  ⟨by decide, by decide, resolve_or_fallback.1 [] Call.quiet _ _ (by decide) (by decide)⟩

/-- `a.b.OR.STRING.z` where `a` is a number: `a.b` fails by indexing the number and
`STRING.z` gives `z`, yet the whole address fails as `a.b` does, with no fallback. -/
theorem or_unindexable_no_fallback :
    (resolve [(Text.ofString "a", .int 1)] Call.quiet (Text.ofString "a.b")).outcome =
        .error (.notIndexable .int) ∧
      (resolve [(Text.ofString "a", .int 1)] Call.quiet (Text.ofString "STRING.z")).outcome =
        .ok (.str (Text.ofString "z")) ∧
      (resolve [(Text.ofString "a", .int 1)] Call.quiet
        (Text.ofString "a.b" ++ Address.orMark ++ Text.ofString "STRING.z")).outcome =
        .error (.notIndexable .int) := by
  have hroom : Call.quiet.HasRoom := by decide
  have hroom' : Call.quiet.inner.HasRoom := by decide
  have hx : (resolve [(Text.ofString "a", .int 1)] Call.quiet (Text.ofString "a.b")).outcome =
      .error (.notIndexable .int) := by
    have hs : Address.segments (Text.ofString "a.b") = [Text.ofString "a", Text.ofString "b"] := by
      decide
    rw [outcome_resolve_path hs (by decide), Address.firstAlternative_of_isAlternative (by decide),
      outcome_findPath hs, if_pos hroom]
    simp [Value.field?, outcome_descend_cons, hroom', Value.kind]
  refine ⟨hx, ?_, ?_⟩
  · have hs : Address.segments (Text.ofString "STRING.z") =
        [Text.ofString "STRING", Text.ofString "z"] := by
      decide
    rw [outcome_resolve_text hs (by decide), if_pos hroom, if_pos hroom']
  · rw [outcome_or_of_isPath (by decide) (by decide), hx]

end Remap
