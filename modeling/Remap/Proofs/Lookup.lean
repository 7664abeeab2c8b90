import Remap.Proofs.Outcome
/-!
Looking up a path of keys.

A path is looked up one key at a time: the first key among the sources, each next one among the
fields of the value found so far. `Value.lookup` says what that gives, with no address and no
call in sight: the value under the last key, or the first step that fails, which is either a
key missing from an object or a key applied to a value of another kind.

The lookups of resolving are this lookup (`outcome_findPath_eq_lookup`), as long as the call has
room for its notes; without room they go too deep instead (`findPath_tooDeep_or_lookup`).

Keys joined by dots are an address. When no key holds a dot, no inner key is `OR` and the first
key is no keyword, the address is one plain path, and resolving it gives exactly the lookup of
its keys (`resolve_joinDots_eq_lookup`): the value under them, a missing key reported with the
whole address, or a key applied to a value without fields reported with the kind of that value.
A first or last key `OR`, and empty keys, are keys like any other.
-/

namespace Remap

/-- What looking up keys one after another gives. -/
inductive Lookup where
  /-- every key was found; the value under the last one -/
  | found (v : Value)
  /-- the first key that fails is missing from an object -/
  | missing
  /-- the first key that fails is applied to a value of this kind, which has no fields -/
  | unindexable (kind : Value.Kind)

/-- Looks up keys one after another below a value. -/
def Value.lookup (v : Value) : List Text → Lookup
  | [] => .found v
  | k :: ks =>
    match v with
    | .obj fs =>
      match Value.field? fs k with
      | some w => w.lookup ks
      | none => .missing
    | v => .unindexable v.kind

/-- A lookup as a path lookup of resolving reports it: the value found, nothing for a missing
key, a failure for a key applied to a value without fields. -/
def Lookup.toOutcome : Lookup → Except Fault (Option Value)
  | .found v => .ok (some v)
  | .missing => .ok none
  | .unindexable k => .error (.notIndexable k)

/-- The lookup of the keys of a path among the sources: its segments, the first of them among the
sources themselves. -/
def Address.lookupIn (src : Fields) (path : Text) : Lookup :=
  (Value.obj src).lookup (Address.segments path)

theorem Value.lookup_obj_cons (fs : Fields) (k : Text) (ks : List Text) :
    (Value.obj fs).lookup (k :: ks) =
      match Value.field? fs k with
      | some w => w.lookup ks
      | none => .missing := rfl

-- ============================================================ the lookups of resolving

section lookups

variable {c : Call}

/-- With room for a note per key, descending is the lookup. -/
theorem outcome_descend_eq_lookup (hroom : c.HasRoom) :
    ∀ (v : Value) (ks : List Text), (descend c v ks).outcome = (v.lookup ks).toOutcome
  | v, [] => rfl
  | v, k :: ks => by
    rw [outcome_descend_cons, if_pos hroom]
    cases v with
    | obj fs =>
      rw [Value.lookup_obj_cons]
      cases hf : Value.field? fs k with
      | some w =>
        simp only [hf]
        exact outcome_descend_eq_lookup hroom w ks
      | none =>
        simp only [hf]
        rfl
    | _ => rfl

/-- Descending is the lookup, or it goes too deep. -/
theorem descend_tooDeep_or_lookup (v : Value) (ks : List Text) :
    (descend c v ks).outcome = .error .tooDeep ∨ (descend c v ks).outcome = (v.lookup ks).toOutcome := by
  by_cases hroom : c.HasRoom
  · exact .inr (outcome_descend_eq_lookup hroom v ks)
  · cases ks with
    | nil => exact .inr rfl
    | cons k ks =>
      rw [outcome_descend_cons, if_neg hroom]
      exact .inl rfl

variable {src : Fields} {path : Text}

/-- A path lookup with room for its notes is the lookup of its segments among the sources. -/
theorem outcome_findPath_eq_lookup (hroom : c.HasRoom) :
    (findPath src c path).outcome = (Address.lookupIn src path).toOutcome := by
  obtain ⟨k, ks, hs⟩ := List.exists_cons_of_ne_nil (Address.segments_ne_nil path)
  rw [outcome_findPath hs, Address.lookupIn, hs, Value.lookup_obj_cons]
  cases Value.field? src k with
  | none => rfl
  | some v => exact outcome_descend_eq_lookup hroom v ks

/-- A path lookup is the lookup of its segments among the sources, or it goes too deep. -/
theorem findPath_tooDeep_or_lookup :
    (findPath src c path).outcome = .error .tooDeep ∨
      (findPath src c path).outcome = (Address.lookupIn src path).toOutcome := by
  obtain ⟨k, ks, hs⟩ := List.exists_cons_of_ne_nil (Address.segments_ne_nil path)
  rw [outcome_findPath hs, Address.lookupIn, hs, Value.lookup_obj_cons]
  cases Value.field? src k with
  | none => exact .inr rfl
  | some v => exact descend_tooDeep_or_lookup v ks

end lookups

-- ============================================================ plain paths

/-- Resolving keys joined by dots is looking them up among the sources, when no key holds a dot,
no inner key is `OR`, the first key is no keyword, and the call that looks them up has room for
its notes, the error line of a missing key included. The value under the keys is the result; a
missing key fails with the whole address, a key applied to a value without fields with the kind
of that value. -/
theorem resolve_joinDots_eq_lookup {src : Fields} {c : Call} {ps : List Text}
    (hne : ps ≠ []) (hdot : ∀ s ∈ ps, Address.dot ∉ s) (hor : Address.orWord ∉ ps.tail.dropLast)
    (hhead : ∀ n ∈ ps.head?, Keyword.ofSegment? n = none) (hroom : c.inner.HasWarnRoom) :
    (resolve src c (Address.joinDots ps)).outcome =
      match (Value.obj src).lookup ps with
      | .found v => .ok v
      | .missing => .error (.missingKey (Address.joinDots ps))
      | .unindexable k => .error (.notIndexable k) := by
  obtain ⟨n, ks, rfl⟩ := List.exists_cons_of_ne_nil hne
  obtain ⟨hs, halt⟩ := Address.firstAlternative_joinDots hne hdot hor
  have hplain : c.inner.HasRoom := hroom.hasRoom
  rw [outcome_resolve_path hs (hhead n rfl), if_pos (Call.hasRoom_of_inner hplain), halt,
    outcome_findPath_eq_lookup hplain, Address.lookupIn, hs]
  cases (Value.obj src).lookup (n :: ks) with
  | found v => rfl
  | missing => simp [Lookup.toOutcome, hroom]
  | unindexable k => rfl

/-- The path `a..OR` (an empty key, and `OR` last) at the depth a host resolves in: it is a plain
path, and resolving it finds the value under its three keys. -/
theorem resolve_joinDots_eq_lookup_or_last :
    [Text.ofString "a", [], Address.orWord] ≠ [] ∧
      (∀ s ∈ [Text.ofString "a", [], Address.orWord], Address.dot ∉ s) ∧
      Address.orWord ∉ [Text.ofString "a", [], Address.orWord].tail.dropLast ∧
      (∀ n ∈ [Text.ofString "a", [], Address.orWord].head?, Keyword.ofSegment? n = none) ∧
      Call.quiet.inner.HasWarnRoom ∧
      (resolve [(Text.ofString "a", .obj [([], .obj [(Address.orWord, .int 1)])])] Call.quiet
          (Address.joinDots [Text.ofString "a", [], Address.orWord])).outcome =
        match (Value.obj [(Text.ofString "a", .obj [([], .obj [(Address.orWord, .int 1)])])]).lookup
            [Text.ofString "a", [], Address.orWord] with
        | .found v => .ok v
        | .missing => .error (.missingKey (Address.joinDots [Text.ofString "a", [], Address.orWord]))
        | .unindexable k => .error (.notIndexable k) :=
  ⟨by decide, by decide, by decide, by decide, by decide,
    resolve_joinDots_eq_lookup (by decide) (by decide) (by decide) (by decide) (by decide)⟩

end Remap
