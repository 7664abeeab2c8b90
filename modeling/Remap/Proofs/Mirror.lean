import Remap.Proofs.Maps
/-!
Mapping sources through their own shape.

The mirror of sources (`shape`) maps every name to itself and every object to a nested map,
whose keys map to their dotted paths. Applying the mirror to the sources gives them back, less
every entry whose value is the text `SKIP`, at every depth (`applyMap_shape`): mapping leaves out
an entry whose address resolves to `SKIP`.

The sources must have plain keys (no two alike, none holding a dot), top names that are neither
keywords nor reserved, and no key `OR` below the top that holds an object with fields, since a
`.OR.` mark would cut the paths under it.

The proof walks the mirror level by level (`MirrorReady`). Every leaf is a plain path, which
resolves to the value found under it (`outcome_resolve_joinDots`). Each nested map is applied
one call deeper, where the stack still has room: a map is logged with the sources, which nest
deeper than the map stands (`leafRoom_of_fits`).
-/

namespace Remap

-- ============================================================ values under keys

/-- The value found under a list of keys: each key taken among the fields of the object found
so far. -/
def Value.atPath : Value → List Text → Option Value
  | v, [] => some v
  | .obj fs, k :: ks => (Value.field? fs k).bind fun w => w.atPath ks
  | _, _ :: _ => none

theorem Value.atPath_append (p q : List Text) :
    ∀ v : Value, v.atPath (p ++ q) = (v.atPath p).bind fun w => w.atPath q := by
  induction p with
  | nil => intro v; rfl
  | cons k ks ih =>
    intro v
    cases v with
    | obj fs =>
      cases h : Value.field? fs k with
      | none => simp [Value.atPath, h]
      | some w => simp [Value.atPath, h, ih w]
    | _ => rfl

/-- A field of an object whose names are all different is the one bound to its name. -/
theorem Value.field?_of_mem {fs : Fields} {e : Text × Value} (hnd : (fs.map Prod.fst).Nodup)
    (he : e ∈ fs) : Value.field? fs e.1 = some e.2 := by
  induction fs with
  | nil => cases he
  | cons f rest ih =>
    obtain ⟨n, w⟩ := f
    have hnd' : n ∉ rest.map Prod.fst ∧ (rest.map Prod.fst).Nodup := by simpa using hnd
    rcases List.mem_cons.1 he with rfl | hrest
    · simp [Value.field?]
    · have hne : n ≠ e.1 := fun h => hnd'.1 (h ▸ List.mem_map_of_mem hrest)
      simp [Value.field?, hne, ih hnd'.2 hrest]

theorem Value.field?_eq_none {fs : Fields} {k : Text} (h : ∀ e ∈ fs, e.1 ≠ k) :
    Value.field? fs k = none := by
  induction fs with
  | nil => rfl
  | cons f rest ih =>
    have hf : f.1 ≠ k := h f List.mem_cons_self
    simp [Value.field?, hf, ih fun e he => h e (List.mem_cons_of_mem f he)]

-- ============================================================ conditions on the sources

mutual

/-- Whether every object within a value, the value itself included, passes `q`. -/
def Value.everyObject (q : Fields → Bool) : Value → Bool
  | .obj fs => q fs && Value.fieldsEveryObject q fs
  | _ => true

/-- Whether every object within the values of fields passes `q`. -/
def Value.fieldsEveryObject (q : Fields → Bool) : Fields → Bool
  | [] => true
  | (_, x) :: rest => x.everyObject q && Value.fieldsEveryObject q rest

end

theorem Value.fieldsEveryObject_cons {q : Fields → Bool} {k : Text} {x : Value} {rest : Fields} :
    Value.fieldsEveryObject q ((k, x) :: rest) = true ↔
      x.everyObject q = true ∧ Value.fieldsEveryObject q rest = true := by
  simp [Value.fieldsEveryObject]

theorem Value.everyObject_obj {q : Fields → Bool} {fs : Fields} :
    (Value.obj fs).everyObject q = true ↔ q fs = true ∧ Value.fieldsEveryObject q fs = true := by
  simp [Value.everyObject]

/-- Whether a value is an object with fields. -/
def Value.hasFields : Value → Bool
  | .obj (_ :: _) => true
  | _ => false

/-- Keys that a dotted path can spell back: no two alike, and none holding a dot. -/
def plainKeys (fs : Fields) : Bool :=
  decide (fs.map Prod.fst).Nodup && fs.all fun e => decide (Address.dot ∉ e.1)

/-- No key `OR` holds an object with fields. -/
def bareOrKeys (fs : Fields) : Bool :=
  fs.all fun e => e.1 != Address.orWord || !e.2.hasFields

/-- No value of the object is the text `SKIP`. -/
def noSkips (fs : Fields) : Bool := fs.all fun e => !e.2.isSkip

theorem plainKeys_cons {k : Text} {x : Value} {rest : Fields} :
    plainKeys ((k, x) :: rest) = true ↔
      (k ∉ rest.map Prod.fst ∧ Address.dot ∉ k) ∧ plainKeys rest = true := by
  simp only [plainKeys, List.map_cons, List.nodup_cons, List.all_cons, Bool.and_eq_true,
    decide_eq_true_eq]
  tauto

theorem nodup_of_plainKeys {fs : Fields} (h : plainKeys fs = true) : (fs.map Prod.fst).Nodup := by
  simp only [plainKeys, Bool.and_eq_true, decide_eq_true_eq] at h
  exact h.1

theorem bareOrKeys_cons {k : Text} {x : Value} {rest : Fields} :
    bareOrKeys ((k, x) :: rest) = true ↔
      (k = Address.orWord → x.hasFields = false) ∧ bareOrKeys rest = true := by
  simp only [bareOrKeys, List.all_cons, Bool.and_eq_true, Bool.or_eq_true, bne_iff_ne, ne_eq,
    Bool.not_eq_true']
  tauto

-- ============================================================ the mirror, and leaving out `SKIP`

mutual

/-- The map entry that mirrors a value found under the keys `p`: a nested map for an object, and
otherwise the keys joined by dots. -/
def mirrorValue (p : List Text) : Value → Value
  | .obj fs => .obj (mirrorFields p fs)
  | _ => .str (Address.joinDots p)

/-- The map entries that mirror the fields of an object found under the keys `p`. -/
def mirrorFields (p : List Text) : Fields → Fields
  | [] => []
  | (k, x) :: rest => (k, mirrorValue (p ++ [k]) x) :: mirrorFields p rest

end

/-- The map that mirrors sources: each name mapped to itself, each object to a nested map. -/
def shape (v : Fields) : Fields := mirrorFields [] v

mutual

/-- A value with every entry whose value is `SKIP` left out, at every depth. -/
def Value.dropSkips : Value → Value
  | .obj fs => .obj (Value.fieldsDropSkips fs)
  | x => x

/-- Fields with every entry whose value is `SKIP` left out, at every depth. -/
def Value.fieldsDropSkips : Fields → Fields
  | [] => []
  | (k, x) :: rest =>
    if x.isSkip then Value.fieldsDropSkips rest else (k, x.dropSkips) :: Value.fieldsDropSkips rest

end

theorem Value.length_fieldsDropSkips_le : ∀ fs : Fields, (Value.fieldsDropSkips fs).length ≤ fs.length
  | [] => by simp [Value.fieldsDropSkips]
  | (k, x) :: rest => by
    have ih := Value.length_fieldsDropSkips_le rest
    by_cases hs : x.isSkip <;> simp [Value.fieldsDropSkips, hs] <;> omega

/-- Leaving out `SKIP` changes nothing exactly when no object at any depth holds the text `SKIP`
as a value. -/
theorem Value.fieldsDropSkips_eq_self_iff :
    ∀ fs : Fields, Value.fieldsDropSkips fs = fs ↔ (Value.obj fs).everyObject noSkips = true
  | [] => by simp [Value.fieldsDropSkips, Value.everyObject, Value.fieldsEveryObject, noSkips]
  | (k, x) :: rest => by
    have ih := Value.fieldsDropSkips_eq_self_iff rest
    rw [Value.everyObject_obj] at ih
    have hx : x.dropSkips = x ↔ x.everyObject noSkips = true := by
      cases x with
      | obj inner => simpa [Value.dropSkips] using Value.fieldsDropSkips_eq_self_iff inner
      | _ => simp [Value.dropSkips, Value.everyObject]
    by_cases hs : x.isSkip
    · -- a `SKIP` value is left out, so the fields get shorter
      have hlen := Value.length_fieldsDropSkips_le rest
      constructor
      · intro h
        have h' := congrArg List.length h
        simp only [Value.fieldsDropSkips, hs, if_true, List.length_cons] at h'
        omega
      · intro h
        simp [Value.everyObject, noSkips, hs] at h
    · simp only [Value.fieldsDropSkips, hs, Bool.false_eq_true, if_false, List.cons.injEq,
        Prod.mk.injEq, true_and, hx, ih, Value.everyObject_obj, Value.fieldsEveryObject_cons]
      simp only [noSkips, List.all_cons, hs, Bool.not_false, Bool.true_and]
      tauto

theorem mirrorFields_cons_obj (p : List Text) (k : Text) (inner rest : Fields) :
    mirrorFields p ((k, .obj inner) :: rest) =
      (k, .obj (mirrorFields (p ++ [k]) inner)) :: mirrorFields p rest := by
  simp [mirrorFields, mirrorValue]

/-- The mirror of entries is a map: only texts and nested maps stand in it. -/
theorem entriesMap_mirrorFields : ∀ (p : List Text) (fs : Fields),
    Value.entriesMap (mirrorFields p fs) = true
  | _, [] => by simp [mirrorFields, Value.entriesMap]
  | p, (k, x) :: rest => by
    cases x with
    | obj inner =>
      rw [mirrorFields_cons_obj]
      simp [Value.entriesMap, entriesMap_mirrorFields (p ++ [k]) inner,
        entriesMap_mirrorFields p rest]
    | _ => simp [mirrorFields, mirrorValue, Value.entriesMap, entriesMap_mirrorFields p rest]

-- ============================================================ plain paths

/-- Descending along keys finds the value under them, with a note for each key. -/
theorem outcome_descend_of_atPath {c : Call} (hroom : c.HasRoom) :
    ∀ {v w : Value} {ks : List Text}, v.atPath ks = some w → (descend c v ks).outcome = .ok (some w)
  | v, w, [], h => by
    obtain rfl : v = w := Option.some.inj h
    rfl
  | v, w, k :: ks, h => by
    cases v with
    | obj fs =>
      obtain ⟨x, hx, hw⟩ : ∃ x, Value.field? fs k = some x ∧ x.atPath ks = some w := by
        simpa [Value.atPath, Option.bind_eq_some_iff] using h
      rw [outcome_descend_cons, if_pos hroom]
      simp only [hx]
      exact outcome_descend_of_atPath hroom hw
    | _ => simp [Value.atPath] at h

/-- A path of keys, joined by dots, resolves to the value found under it among the sources when
no key holds a dot, no inner key is `OR`, and the first key is no keyword. -/
theorem outcome_resolve_joinDots {src : Fields} {c : Call} {ps : List Text} {w : Value}
    (hne : ps ≠ []) (hdot : ∀ s ∈ ps, Address.dot ∉ s) (hor : Address.orWord ∉ ps.tail.dropLast)
    (hhead : ∀ n ∈ ps.head?, Keyword.ofSegment? n = none)
    (hat : (Value.obj src).atPath ps = some w) (hroom : c.HasRoom) (hroom' : c.inner.HasRoom) :
    (resolve src c (Address.joinDots ps)).outcome = .ok w := by
  obtain ⟨n, ks, rfl⟩ := List.exists_cons_of_ne_nil hne
  obtain ⟨hs, halt⟩ := Address.firstAlternative_joinDots hne hdot hor
  obtain ⟨x, hx, hw⟩ : ∃ x, Value.field? src n = some x ∧ x.atPath ks = some w := by
    simpa [Value.atPath, Option.bind_eq_some_iff] using hat
  have hn : Keyword.ofSegment? n = none := hhead n rfl
  rw [outcome_resolve_path hs hn, if_pos hroom, halt, outcome_findPath hs]
  simp only [hx, outcome_descend_of_atPath hroom' hw]
  rfl

/-- A map logged in a call that stands no deeper than the sources nest, less one, leaves room for
its leaves to look up their paths two calls deeper. -/
theorem leafRoom_of_fits {c : Call} {m : Value} {src : Fields}
    (hlog : c.logging = Call.quiet.logging) (hfit : Run.fits c (.beginMap m src))
    (hdepth : c.depth ≤ (Value.obj src).nesting + 3) : c.inner.inner.HasRoom := by
  have h := of_decide_eq_true hfit
  simp only [Note.units, hlog, Call.quiet, jsonUnits, stackLimit] at h
  simp only [Call.HasRoom, Call.depth_inner, Call.logging_inner, hlog, Call.quiet, stackLimit]
  omega

/-- The inner keys of a path with one more key are the inner keys of the path and its last key
dropped: `(p ++ [k]).tail.dropLast = p.tail`. -/
theorem tail_dropLast_concat (p : List Text) (k : Text) : (p ++ [k]).tail.dropLast = p.tail := by
  cases p <;> simp

-- ============================================================ one level of the mirror

/-- What mapping the mirror of the fields `es`, found under the keys `p` of the sources `v`, in
the call `c`, needs: the mirror's entries are ready and their leaves have room, the call stands
no deeper than the sources nest below the fields, each field is found under its path, the keys
on the way and below are plain, the first key is no keyword, and no `OR` cuts a path. -/
structure MirrorReady (v : Fields) (c : Call) (p : List Text) (es : Fields) : Prop where
  ready : EntriesReady v c (mirrorFields p es)
  logging : c.logging = Call.quiet.logging
  leafRoom : c.inner.inner.HasRoom
  depth : c.depth + (Value.obj es).nesting ≤ (Value.obj v).nesting + Call.quiet.depth
  found : ∀ e ∈ es, (Value.obj v).atPath (p ++ [e.1]) = some e.2
  dots : ∀ s ∈ p, Address.dot ∉ s
  keys : (Value.obj es).everyObject plainKeys = true
  head : ∀ e ∈ es, ∀ n ∈ (p ++ [e.1]).head?, Keyword.ofSegment? n = none
  orPath : es ≠ [] → Address.orWord ∉ p.tail
  orKeys : p ≠ [] → bareOrKeys es = true
  orDeeper : Value.fieldsEveryObject bareOrKeys es = true

namespace MirrorReady

variable {v : Fields} {c : Call} {p : List Text} {k : Text} {rest : Fields}

/-- The sources themselves are ready at the top, in the call that applies their mirror. -/
theorem top (hkeys : (Value.obj v).everyObject plainKeys = true)
    (htop : ∀ e ∈ v, Keyword.ofSegment? e.1 = none)
    (hor : Value.fieldsEveryObject bareOrKeys v = true) (hfit : DumpsFit v Call.quiet (shape v)) :
    MirrorReady v Call.quiet [] v := by
  have hnd : (v.map Prod.fst).Nodup := nodup_of_plainKeys (Value.everyObject_obj.1 hkeys).1
  have hnest : 1 ≤ (Value.obj v).nesting := by simp [Value.nesting]
  refine ⟨.of_dumpsFit (entriesMap_mirrorFields [] v) rfl hfit, rfl,
    leafRoom_of_fits rfl hfit.1 (by simp only [Call.quiet]; omega), by simp only [Call.quiet]; omega,
    fun e he => ?_, by simp, hkeys, fun e he n hn => ?_, by simp, by simp, hor⟩
  · simp [Value.atPath, Value.field?_of_mem hnd he]
  · have hn' : e.1 = n := by simpa using hn
    rw [← hn']
    exact htop e he

theorem tail {e : Text × Value} (h : MirrorReady v c p (e :: rest)) : MirrorReady v c p rest := by
  obtain ⟨k, x⟩ := e
  have hkeys := h.keys
  simp only [Value.everyObject_obj, plainKeys_cons, Value.fieldsEveryObject_cons] at hkeys
  have hdepth : (Value.obj rest).nesting ≤ (Value.obj ((k, x) :: rest)).nesting := by
    simp only [Value.nesting, Value.fieldsNesting]
    omega
  refine ⟨h.ready.tail, h.logging, h.leafRoom, by have := h.depth; omega,
    fun e he => h.found e (List.mem_cons_of_mem _ he), h.dots,
    Value.everyObject_obj.2 ⟨hkeys.1.2, hkeys.2.2⟩,
    fun e he => h.head e (List.mem_cons_of_mem _ he), fun _ => h.orPath (List.cons_ne_nil _ _),
    fun hp => (bareOrKeys_cons.1 (h.orKeys hp)).2, (Value.fieldsEveryObject_cons.1 h.orDeeper).2⟩

/-- No key on the path of a field holds a dot. -/
theorem dots_path {x : Value} (h : MirrorReady v c p ((k, x) :: rest)) :
    ∀ s ∈ p ++ [k], Address.dot ∉ s := by
  have hkeys := h.keys
  simp only [Value.everyObject_obj, plainKeys_cons] at hkeys
  intro s hs
  rcases List.mem_append.1 hs with hs | hs
  · exact h.dots s hs
  · obtain rfl : s = k := by simpa using hs
    exact hkeys.1.1.2

/-- The leaf of a field that is no object is its path, which resolves to the field's value. -/
theorem resolve_leaf {x : Value} (h : MirrorReady v c p ((k, x) :: rest)) :
    (resolve v c.inner (Address.joinDots (p ++ [k]))).outcome = .ok x := by
  refine outcome_resolve_joinDots (by simp) h.dots_path ?_ (h.head (k, x) List.mem_cons_self)
    (h.found (k, x) List.mem_cons_self) (Call.hasRoom_of_inner h.leafRoom) h.leafRoom
  rw [tail_dropLast_concat]
  exact h.orPath (List.cons_ne_nil _ _)

/-- The path of a leaf is never `SKIP`: that would make its first key the keyword. -/
theorem address_ne_skip {x : Value} (h : MirrorReady v c p ((k, x) :: rest)) :
    Address.joinDots (p ++ [k]) ≠ skipText := by
  intro heq
  have hsegs : p ++ [k] = [skipText] := by
    rw [← Address.segments_joinDots (by simp) h.dots_path, heq]
    decide
  obtain rfl : p = [] := by
    have hlen := congrArg List.length hsegs
    simpa using hlen
  obtain rfl : k = skipText := by simpa using hsegs
  have hkw := h.head (skipText, x) List.mem_cons_self skipText (by simp)
  exact absurd hkw (by decide)

/-- The fields of a nested object are ready one call deeper, under one more key. -/
theorem inner {inner : Fields} (h : MirrorReady v c p ((k, .obj inner) :: rest)) :
    MirrorReady v c.inner (p ++ [k]) inner := by
  have hready := h.ready
  rw [mirrorFields_cons_obj] at hready
  have hkeys := h.keys
  simp only [Value.everyObject_obj, plainKeys_cons, Value.fieldsEveryObject_cons] at hkeys
  have hinner := hkeys.2.1
  have hor := (Value.fieldsEveryObject_cons.1 h.orDeeper).1
  rw [Value.everyObject_obj] at hor
  -- the nested object nests one less than the fields that hold it
  have hnest : 1 + (Value.obj inner).nesting ≤ (Value.obj ((k, .obj inner) :: rest)).nesting := by
    simp only [Value.nesting, Value.fieldsNesting]
    omega
  have hpos : 1 ≤ (Value.obj inner).nesting := by simp [Value.nesting]
  have hdepth := h.depth
  have hfound : (Value.obj v).atPath (p ++ [k]) = some (.obj inner) :=
    h.found (k, .obj inner) List.mem_cons_self
  have hnd : (inner.map Prod.fst).Nodup := nodup_of_plainKeys hinner.1
  refine ⟨hready.obj_inner.2, h.logging,
    leafRoom_of_fits h.logging hready.obj_inner.1 (by simp only [Call.depth_inner, Call.quiet] at *; omega),
    by simp only [Call.depth_inner]; omega, fun e he => ?_, h.dots_path,
    Value.everyObject_obj.2 hinner,
    fun e he n hn => ?_, fun hne => ?_, fun _ => hor.1, hor.2⟩
  · rw [Value.atPath_append, hfound]
    simp [Value.atPath, Value.field?_of_mem hnd he]
  · have hn' : n ∈ (p ++ [k]).head? := by
      cases p <;> simpa using hn
    exact h.head (k, .obj inner) List.mem_cons_self n hn'
  · -- a key `OR` below the top holds no fields, so it cuts no path under it
    have hk : p ≠ [] → k ≠ Address.orWord := fun hp hko => by
      have hbare := (bareOrKeys_cons.1 (h.orKeys hp)).1 hko
      obtain ⟨e, es, rfl⟩ := List.exists_cons_of_ne_nil hne
      simp [Value.hasFields] at hbare
    have hp := h.orPath (List.cons_ne_nil _ _)
    cases p with
    | nil => simp
    | cons a p' =>
      simpa using ⟨hp, Ne.symm (hk (List.cons_ne_nil a p'))⟩

end MirrorReady

-- ============================================================ the whole mirror

/-- Mapping the mirror of ready fields gives the fields back, less their `SKIP` entries. -/
theorem mapEntries_mirror {v : Fields}
    (haddr : Value.field? v (Text.ofString Reserved.address.word) = none) :
    ∀ {c : Call} {p : List Text} {es : Fields}, MirrorReady v c p es →
      (mapEntries v c (mirrorFields p es)).outcome = .ok (Value.fieldsDropSkips es)
  | _, _, [], _ => rfl
  | c, p, (k, x) :: rest, h => by
    have ih := mapEntries_mirror haddr h.tail
    cases x with
    | obj inner =>
      -- a nested object is mapped one call deeper, under one more key
      have hready := h.ready
      rw [mirrorFields_cons_obj] at hready ⊢
      rw [outcome_mapEntries_obj hready.room hready.quiet, hready.outcome_nested,
        mapEntries_mirror haddr h.inner, ih]
      simp [Value.fieldsDropSkips, Value.dropSkips, Value.isSkip]
    | _ =>
      -- any other value is a leaf, whose path resolves to it
      simp only [mirrorFields, mirrorValue]
      rw [outcome_mapEntries_str h.ready.room h.ready.quiet haddr h.address_ne_skip,
        h.resolve_leaf, ih]
      simp only [Value.fieldsDropSkips, Value.dropSkips, except_ok_bind]
      split <;> rfl

/-- Applying the mirror of sources to the sources themselves gives the sources back, less every
entry whose value is `SKIP`, at every depth, in the same order; so it gives them back whole
exactly when no object in them holds `SKIP`. The sources have plain keys, top names that are
neither keywords nor reserved, no key `OR` below the top holding fields, and every map of the
mirror can log itself and the sources. -/
theorem applyMap_shape {v : Fields}
    (hkeys : (Value.obj v).everyObject plainKeys = true)
    (htop : ∀ e ∈ v, Keyword.ofSegment? e.1 = none ∧ e.1 ≠ Text.ofString Reserved.address.word ∧
      e.1 ≠ Text.ofString Reserved.map.word)
    (hor : Value.fieldsEveryObject bareOrKeys v = true)
    (hfit : DumpsFit v Call.quiet (shape v)) :
    (applyMap v Call.quiet (.obj (shape v))).outcome = .ok (Value.fieldsDropSkips v) ∧
      ((applyMap v Call.quiet (.obj (shape v))).outcome = .ok v ↔
        (Value.obj v).everyObject noSkips = true) := by
  have haddr : Value.field? v (Text.ofString Reserved.address.word) = none :=
    Value.field?_eq_none fun e he => (htop e he).2.1
  have hmap : Value.field? v (Text.ofString Reserved.map.word) = none :=
    Value.field?_eq_none fun e he => (htop e he).2.2
  have hready : MirrorReady v Call.quiet [] v := .top hkeys (fun e he => (htop e he).1) hor hfit
  have hout : (applyMap v Call.quiet (.obj (shape v))).outcome = .ok (Value.fieldsDropSkips v) := by
    rw [applyMap_eq_mapValue hmap, outcome_mapValue_obj, if_pos hfit.1]
    exact mapEntries_mirror haddr hready
  refine ⟨hout, ?_⟩
  rw [hout, ← Value.fieldsDropSkips_eq_self_iff]
  exact ⟨fun h => Except.ok.inj h, congrArg Except.ok⟩

/-- Sources with a number, and a nested object holding a `SKIP` and a key `OR`. -/
def nestedSkipSources : Fields :=
  [(Text.ofString "a", .int 1),
    (Text.ofString "b", .obj [(Text.ofString "c", .str skipText), (Text.ofString "OR", .null)])]

/-- `nestedSkipSources` meets the hypotheses of applying its mirror. -/
theorem applyMap_shape_nested :
    (Value.obj nestedSkipSources).everyObject plainKeys = true ∧
      (∀ e ∈ nestedSkipSources, Keyword.ofSegment? e.1 = none ∧
        e.1 ≠ Text.ofString Reserved.address.word ∧ e.1 ≠ Text.ofString Reserved.map.word) ∧
      Value.fieldsEveryObject bareOrKeys nestedSkipSources = true ∧
      DumpsFit nestedSkipSources Call.quiet (shape nestedSkipSources) ∧
      (applyMap nestedSkipSources Call.quiet (.obj (shape nestedSkipSources))).outcome =
        .ok (Value.fieldsDropSkips nestedSkipSources) ∧
      ((applyMap nestedSkipSources Call.quiet (.obj (shape nestedSkipSources))).outcome =
          .ok nestedSkipSources ↔
        (Value.obj nestedSkipSources).everyObject noSkips = true) := by
  have hkeys : (Value.obj nestedSkipSources).everyObject plainKeys = true := by decide
  have htop : ∀ e ∈ nestedSkipSources, Keyword.ofSegment? e.1 = none ∧
      e.1 ≠ Text.ofString Reserved.address.word ∧ e.1 ≠ Text.ofString Reserved.map.word := by
    decide
  have hor : Value.fieldsEveryObject bareOrKeys nestedSkipSources = true := by decide
  have hfit : DumpsFit nestedSkipSources Call.quiet (shape nestedSkipSources) := by
    refine ⟨by decide, ?_⟩
    simp only [nestedSkipSources, shape, mirrorFields, mirrorValue, entriesSubMaps, subMaps,
      List.nil_append, List.append_nil, List.mem_singleton, forall_eq]
    decide
  exact ⟨hkeys, htop, hor, hfit, applyMap_shape hkeys htop hor hfit⟩

/-- The sources `{"a": "SKIP"}` meet every hypothesis on the sources, yet applying their mirror
`{"a": "a"}` to them gives `{}`: the entry resolves to `SKIP` and is left out. -/
theorem applyMap_shape_skip :
    (applyMap [(Text.ofString "a", .str skipText)] Call.quiet
      (.obj (shape [(Text.ofString "a", .str skipText)]))).outcome = .ok [] := by
  have hshape : shape [(Text.ofString "a", .str skipText)] =
      [(Text.ofString "a", .str (Text.ofString "a"))] := by
    simp [shape, mirrorFields, mirrorValue]
  have hleaf : (resolve [(Text.ofString "a", .str skipText)] Call.quiet.inner
      (Text.ofString "a")).outcome = .ok (.str skipText) :=
    @outcome_resolve_joinDots _ _ [Text.ofString "a"] _ (by simp) (by decide) (by decide)
      (by decide) (by simp [Value.atPath, Value.field?]) (by decide) (by decide)
  rw [hshape, applyMap_eq_mapValue rfl, outcome_mapValue_obj, if_pos (by decide),
    outcome_mapEntries_str (by decide) rfl rfl (by decide), hleaf]
  rfl

end Remap
