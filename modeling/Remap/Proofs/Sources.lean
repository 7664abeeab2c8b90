import Remap.Proofs.Maps
/-!
What resolving and mapping read of the sources.

Resolving an address looks up among the sources only the first segment of each of its
alternatives, and only when that segment is not a keyword (`Address.heads`). Two sources that
agree on those names resolve the address in the same run, notes and all (`resolve_congr`).

Applying a map reads more: the names its leaves look up, the two names a source may not take
(`address` and `map_dict`), and the sources as a whole, which every map logs as one-line JSON
before it is applied. Two sources that agree on those names, and whose logs fit on the stack at
the same maps, give the same outcome (`applyMap_congr`).

So setting a name changes nothing when no leaf looks it up, or when it is a keyword, unless it
is `address` or `map_dict`, or the log of the new sources no longer fits
(`outcome_setField_of_unread`).
-/

namespace Remap

/-- Two sources agree on every name that resolving the address may look up: the first segment
of each alternative that is not a keyword. -/
def SourcesAgree (src src' : Fields) (a : Text) : Prop :=
  ∀ n ∈ Address.heads a, Keyword.ofSegment? n = none → Value.field? src n = Value.field? src' n

/-- Setting a name leaves every other name bound as it was. -/
theorem Value.field?_setField_of_ne {k n : Text} (v : Value) (h : k ≠ n) :
    ∀ fs : Fields, Value.field? (Value.setField fs n v) k = Value.field? fs k
  | [] => by simp [Value.setField, Value.field?, Ne.symm h]
  | (m, w) :: rest => by
    by_cases hm : m = n
    · subst hm
      simp [Value.setField, Value.field?, Ne.symm h]
    · simp [Value.setField, Value.field?, hm, Value.field?_setField_of_ne v h rest]

/-- Setting a name that is a keyword, or that heads no alternative of the address, keeps the
sources in agreement on the address. -/
theorem sourcesAgree_setField {src : Fields} {n a : Text} (x : Value)
    (hn : Keyword.ofSegment? n ≠ none ∨ n ∉ Address.heads a) :
    SourcesAgree (Value.setField src n x) src a := by
  intro k hk hkw
  have hne : k ≠ n := by
    rintro rfl
    rcases hn with hn | hn
    · exact hn hkw
    · exact hn hk
  exact Value.field?_setField_of_ne x hne src

-- ============================================================ resolving

section resolve

variable {src src' : Fields}

/-- A path is looked up in the sources only under its first segment. -/
theorem findPath_congr {c : Call} {path : Text}
    (h : Value.field? src (Address.first path) = Value.field? src' (Address.first path)) :
    findPath src c path = findPath src' c path := by
  unfold findPath
  rcases hs : Address.segments path with _ | ⟨k, ks⟩
  · rfl
  · have hk : Address.first path = k := Address.first_of_segments hs
    simp only
    rw [← hk, h]

/-- Resolving an address reads the sources only at the names the sources agree on. -/
theorem resolve_congr (a : Text) (c : Call) (h : SourcesAgree src src' a) :
    resolve src c a = resolve src' c a := by
  -- induction on the length of the address, which each fallback shortens
  induction a using (measure List.length).wf.induction generalizing c with
  | h a ih =>
  rw [resolve, resolve]
  congr 1
  funext u
  split
  · rfl
  · rename_i head payload hs
    split
    -- a keyword forms a literal, or falls back with no sources at all
    any_goals rfl
    rename_i hk
    split
    rename_i path alt ha
    have hpath : Address.first path = Address.first a := by
      rw [← Address.first_firstAlternative a, ha]
    have hhead : Keyword.ofSegment? (Address.first path) = none := by
      rw [hpath, Address.first_of_segments hs]
      exact hk
    rw [findPath_congr (h _ (hpath ▸ Address.first_mem_heads a) hhead)]
    congr 1
    funext o
    split
    · rfl
    · split
      · rename_i r
        have hr : r.length < a.length := Address.length_alternative_lt (by rw [ha])
        rw [ih r hr _ fun n hn => h n (Address.heads_subset_of_some ha hn)]
      · rfl

/-- Resolving an entry reads the sources at the name `address`, and then as resolving does. -/
theorem resolveEntry_congr {c : Call} {v : Value}
    (haddr : Value.field? src (Text.ofString Reserved.address.word) =
      Value.field? src' (Text.ofString Reserved.address.word))
    (h : ∀ a, v = .str a → SourcesAgree src src' a) :
    resolveEntry src c v = resolveEntry src' c v := by
  unfold resolveEntry
  rw [haddr]
  cases v with
  | str a => simp only [resolve_congr a c (h a rfl)]
  | _ => rfl

end resolve

-- ============================================================ mapping

section mapping

variable {src src' : Fields}
  (haddr : Value.field? src (Text.ofString Reserved.address.word) =
    Value.field? src' (Text.ofString Reserved.address.word))
include haddr

/-- Entries map to the same outcome under two sources that agree on what their leaves look up
and whose logs fit at the same nested maps. -/
theorem mapEntries_congr :
    ∀ {c : Call} {m : Fields}, (∀ l ∈ entriesLeaves c m, SourcesAgree src src' l.2) →
      (∀ p ∈ entriesSubMaps c m, Run.fits p.1 (.beginMap p.2 src) = Run.fits p.1 (.beginMap p.2 src')) →
      (mapEntries src c m).outcome = (mapEntries src' c m).outcome
  | _, [], _, _ => rfl
  | c, (k, a) :: rest, hl, hf => by
    have ih : (mapEntries src c rest).outcome = (mapEntries src' c rest).outcome :=
      mapEntries_congr (fun l hl' => hl l (by simp [entriesLeaves, hl']))
        (fun p hp => hf p (by simp [entriesSubMaps, hp]))
    cases a with
    | obj inner =>
      -- the nested map logs the sources before its own entries are mapped
      have hin : (mapValue src c.inner (.obj inner)).outcome =
          (mapValue src' c.inner (.obj inner)).outcome := by
        rw [outcome_mapValue_obj, outcome_mapValue_obj,
          hf (c.inner, .obj inner) (by simp [entriesSubMaps, subMaps]),
          mapEntries_congr (fun l hl' => hl l (by simp [hl']))
            (fun p hp => hf p (by simp [entriesSubMaps, subMaps, hp]))]
      simp only [mapEntries, Narrated.outcome_bind, Value.isSkip, Bool.false_eq_true, if_false, hin, ih]
    | str s =>
      by_cases hs : s = skipText
      · subst hs
        simp [mapEntries, skipText, ih]
      · have hr : resolveEntry src c.inner (.str s) = resolveEntry src' c.inner (.str s) :=
          resolveEntry_congr haddr fun b hb => by
            cases hb
            exact hl (c.inner, s) (by simp [hs])
        simp only [mapEntries, Narrated.outcome_bind, Narrated.outcome_ite, hr, ih]
    -- any other value fails to resolve, after reading only `address`
    | _ => simp only [mapEntries, Narrated.outcome_bind, Narrated.outcome_ite, resolveEntry, haddr,
        ih]

/-- Applying a map gives the same outcome under two sources that agree on `map_dict`, on
`address` and on what the leaves look up, and whose logs fit at the same maps. -/
theorem applyMap_congr {c : Call} {m : Fields}
    (hmap : Value.field? src (Text.ofString Reserved.map.word) =
      Value.field? src' (Text.ofString Reserved.map.word))
    (hl : ∀ l ∈ entriesLeaves c m, SourcesAgree src src' l.2)
    (htop : Run.fits c (.beginMap (.obj m) src) = Run.fits c (.beginMap (.obj m) src'))
    (hf : ∀ p ∈ entriesSubMaps c m,
      Run.fits p.1 (.beginMap p.2 src) = Run.fits p.1 (.beginMap p.2 src')) :
    (applyMap src c (.obj m)).outcome = (applyMap src' c (.obj m)).outcome := by
  have hentries := mapEntries_congr haddr hl hf
  unfold applyMap
  rw [hmap]
  split
  · rfl
  · rw [outcome_mapValue_obj, outcome_mapValue_obj, htop, hentries]

end mapping

-- ============================================================ setting a name

/-- Setting a source that resolving never looks up, a keyword or a name that heads no
alternative, leaves the resolving of an address unchanged, unless the name is `address`;
and leaves the outcome of applying a map unchanged when the name is neither `address` nor
`map_dict` and the maps can log the sources before and after. -/
theorem outcome_setField_of_unread {src : Fields} {c : Call} {n : Text} (x : Value)
    (haddr : n ≠ Text.ofString Reserved.address.word) :
    (∀ a : Text, (Keyword.ofSegment? n ≠ none ∨ n ∉ Address.heads a) →
      resolveEntry (Value.setField src n x) c (.str a) = resolveEntry src c (.str a)) ∧
    ∀ m : Fields, n ≠ Text.ofString Reserved.map.word →
      (Keyword.ofSegment? n ≠ none ∨ ∀ l ∈ entriesLeaves c m, n ∉ Address.heads l.2) →
      DumpsFit src c m → DumpsFit (Value.setField src n x) c m →
      (applyMap (Value.setField src n x) c (.obj m)).outcome = (applyMap src c (.obj m)).outcome := by
  have hsetAddr := Value.field?_setField_of_ne x (Ne.symm haddr) src
  refine ⟨fun a hn => resolveEntry_congr hsetAddr fun b hb => ?_, fun m hmap hn hfit hfit' => ?_⟩
  · cases hb
    exact sourcesAgree_setField x hn
  · -- every log fits under both sources, so the two agree on each
    have hf : ∀ p ∈ entriesSubMaps c m, Run.fits p.1 (.beginMap p.2 (Value.setField src n x)) =
        Run.fits p.1 (.beginMap p.2 src) := fun p hp => by
      rw [hfit'.2 p hp, hfit.2 p hp]
    refine applyMap_congr hsetAddr (Value.field?_setField_of_ne x (Ne.symm hmap) src)
      (fun l hl => sourcesAgree_setField x ?_) (by rw [hfit'.1, hfit.1]) hf
    rcases hn with hn | hn
    · exact .inl hn
    · exact .inr (hn l hl)

/-- A map with a leaf that falls back from a path to a literal, and a nested map with a path
leaf. -/
def orLeafMap : Fields :=
  [(Text.ofString "k", .str (Text.ofString "a.OR.STRING.x")),
    (Text.ofString "n", .obj [(Text.ofString "m", .str (Text.ofString "c"))])]

/-- Setting a fresh source `b` keeps the resolving of `a.OR.STRING.x`, whose alternatives are
headed by `a` and `STRING`, and the outcome of applying `orLeafMap`, whose maps log under both
sources. -/
theorem outcome_setField_of_unread_fresh :
    Text.ofString "b" ≠ Text.ofString Reserved.address.word ∧
      Text.ofString "b" ∉ Address.heads (Text.ofString "a.OR.STRING.x") ∧
      resolveEntry (Value.setField [] (Text.ofString "b") (.int 1)) Call.quiet
          (.str (Text.ofString "a.OR.STRING.x")) =
        resolveEntry [] Call.quiet (.str (Text.ofString "a.OR.STRING.x")) ∧
      Text.ofString "b" ≠ Text.ofString Reserved.map.word ∧
      (∀ l ∈ entriesLeaves Call.quiet orLeafMap, Text.ofString "b" ∉ Address.heads l.2) ∧
      DumpsFit [] Call.quiet orLeafMap ∧
      DumpsFit (Value.setField [] (Text.ofString "b") (.int 1)) Call.quiet orLeafMap ∧
      (applyMap (Value.setField [] (Text.ofString "b") (.int 1)) Call.quiet (.obj orLeafMap)).outcome =
        (applyMap [] Call.quiet (.obj orLeafMap)).outcome := by
  have hname : Text.ofString "b" ≠ Text.ofString Reserved.address.word := by decide
  have hmap : Text.ofString "b" ≠ Text.ofString Reserved.map.word := by decide
  -- the heads of an address are found by cutting it at its marks, a well-founded recursion
  have hheads : Text.ofString "b" ∉ Address.heads (Text.ofString "a.OR.STRING.x") := by
    decide +kernel
  have hleaves : ∀ l ∈ entriesLeaves Call.quiet orLeafMap, Text.ofString "b" ∉ Address.heads l.2 := by
    simp only [orLeafMap, entriesLeaves, leaves]
    decide +kernel
  have hfit : DumpsFit [] Call.quiet orLeafMap := by
    refine ⟨by decide, ?_⟩
    simp only [orLeafMap, entriesSubMaps, subMaps, List.nil_append, List.append_nil,
      List.mem_singleton, forall_eq]
    decide
  have hfit' : DumpsFit (Value.setField [] (Text.ofString "b") (.int 1)) Call.quiet orLeafMap := by
    refine ⟨by decide, ?_⟩
    simp only [orLeafMap, entriesSubMaps, subMaps, List.nil_append, List.append_nil,
      List.mem_singleton, forall_eq]
    decide
  exact ⟨hname, hheads, (outcome_setField_of_unread (.int 1) hname).1 _ (.inr hheads), hmap,
    hleaves, hfit, hfit', (outcome_setField_of_unread (.int 1) hname).2 orLeafMap hmap
      (.inr hleaves) hfit hfit'⟩

/-- A source named `address` is looked up by no leaf of the map `{"a": "STRING.x"}`, yet it
turns the map's result `{"a": "x"}` into a failure. -/
theorem applyMap_address_source_fails :
    (applyMap [] Call.quiet (.obj [(Text.ofString "a", .str (Text.ofString "STRING.x"))])).outcome =
        .ok [(Text.ofString "a", .str (Text.ofString "x"))] ∧
      (applyMap (Value.setField [] (Text.ofString Reserved.address.word) (.int 1)) Call.quiet
        (.obj [(Text.ofString "a", .str (Text.ofString "STRING.x"))])).outcome =
        .error (.reserved .address) := by
  have hs : Address.segments (Text.ofString "STRING.x") = [Text.ofString "STRING", Text.ofString "x"] := by
    decide
  have hk : Keyword.ofSegment? (Text.ofString "STRING") = some .text := by decide
  constructor
  · rw [applyMap_eq_mapValue rfl, outcome_mapValue_obj, if_pos (by decide),
      outcome_mapEntries_str (by decide) rfl rfl (by decide), outcome_resolve_text hs hk,
      if_pos (by decide), if_pos (by decide)]
    rfl
  · have hne : Text.ofString Reserved.address.word ≠ Text.ofString Reserved.map.word := by decide
    have hskip : Text.ofString "STRING.x" ≠ Text.ofString "SKIP" := by decide
    have hfit : Run.fits Call.quiet (.beginMap (.obj [(Text.ofString "a", .str (Text.ofString "STRING.x"))])
        [(Text.ofString Reserved.address.word, .int 1)]) = true := by decide
    have hroom : Call.quiet.HasRoom := by decide
    simp [applyMap, mapValue, mapEntries, resolveEntry, Value.setField, Value.field?, hne, hskip,
      hfit, Run.fits_entry (c := Call.quiet) rfl, hroom]

end Remap
