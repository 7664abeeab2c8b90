import Remap.Proofs.Lookup
import Remap.Proofs.Fallback
import Remap.Proofs.Maps
/-!
How resolving and mapping fail.

Resolving an address goes on from the address to the address after its first `.OR.` mark
whenever the address is a path and the lookup of the path before the mark misses a key; `Visits`
collects the addresses it goes on to. It fails in one of four ways (`resolve_faultKind`):

* a keyword that forms a literal, read at an address it goes on to, cannot form it, or falls
  back to an address that fails: the fault names that address, and its cause is what went wrong
  inside the literal (`FaultKind.literal`, `FaultKind.fallbackFailed`);
* every alternative is a path whose lookup misses a key: the fault names the last alternative
  (`FaultKind.missingKey`);
* a path it goes on to applies a key to a value without fields: the fault names the kind of that
  value, and no alternative after it is tried (`FaultKind.notIndexable`);
* the calls nest deeper than the stack allows (`Fault.tooDeep`).

Applying a map of texts and maps to sources that take no reserved name fails only as one of its
leaves fails, or by going too deep (`applyMap_faultKind`). So no failure of it is a value error,
an index error or an attribute error: those arise only inside literals, as their causes.

Going too deep is a real outcome even of a map with one leaf. Path alternatives that all miss
are tried two calls deeper each, so a chain of them fails with the last key missing exactly
while the last lookup still fits on the stack, and too deep past that
(`orChain_replicate_missing`); 501 of them in one leaf make mapping fail too deep
(`applyMap_long_chain_tooDeep`).
-/

namespace Remap

-- ============================================================ kinds of faults

/-- Whether a keyword forms a literal from its payload: all but `NULL` and `SKIP`. -/
def Keyword.formsLiteral : Keyword → Bool
  | .null | .skip => false
  | _ => true

/-- An address that begins with a keyword forming a literal. -/
def Address.IsLiteral (a : Text) : Prop :=
  ∃ kw, Keyword.ofSegment? (Address.first a) = some kw ∧ kw.formsLiteral = true

/-- The addresses that resolving an address goes on to: the address itself, and, when it is a
path whose lookup before the first mark misses a key, those of the address after the mark. -/
inductive Visits (src : Fields) : Text → Text → Prop
  | refl (a : Text) : Visits src a a
  | fallback {a r g : Text} : Address.IsPath a → (Address.firstAlternative a).2 = some r →
      Address.lookupIn src (Address.firstAlternative a).1 = .missing → Visits src r g →
      Visits src a g

/-- How resolving an address against sources may fail, short of going too deep. -/
inductive FaultKind (src : Fields) (a : Text) : Fault → Prop
  /-- a literal read at an address that resolving goes on to cannot be formed -/
  | literal {g : Text} (reason : LiteralFault) :
      Visits src a g → Address.IsLiteral g → FaultKind src a (.literal g reason)
  /-- a literal read there falls back to an address that fails -/
  | fallbackFailed {g : Text} (inner : Fault) :
      Visits src a g → Address.IsLiteral g → FaultKind src a (.fallbackFailed g inner)
  /-- every alternative is a path whose lookup misses a key; the last one is named -/
  | missingKey {g : Text} : (Address.alternatives a).getLast? = some g →
      (∀ p ∈ Address.alternatives a, Address.IsPath p ∧ Address.lookupIn src p = .missing) →
      FaultKind src a (.missingKey g)
  /-- a path that resolving goes on to applies a key to a value of this kind -/
  | notIndexable {g : Text} {k : Value.Kind} : Visits src a g → Address.IsPath g →
      Address.lookupIn src (Address.firstAlternative g).1 = .unindexable k →
      FaultKind src a (.notIndexable k)

/-- A fault of resolving is a runtime error, a key error or a type error. -/
theorem FaultKind.errorClass_mem {src : Fields} {a : Text} {f : Fault} (h : FaultKind src a f) :
    f.errorClass = .runtime ∨ f.errorClass = .key ∨ f.errorClass = .type := by
  cases h with
  | literal => exact .inl rfl
  | fallbackFailed => exact .inl rfl
  | missingKey => exact .inr (.inl rfl)
  | notIndexable => exact .inr (.inr rfl)

/-- A fault of the address after the first mark is a fault of the whole address, when the path
before the mark misses a key. -/
theorem FaultKind.of_fallback {src : Fields} {a r : Text} {f : Fault} (hp : Address.IsPath a)
    (hr : (Address.firstAlternative a).2 = some r)
    (hmiss : Address.lookupIn src (Address.firstAlternative a).1 = .missing) :
    FaultKind src r f → FaultKind src a f
  | .literal reason hv hl => .literal reason (.fallback hp hr hmiss hv) hl
  | .fallbackFailed inner hv hl => .fallbackFailed inner (.fallback hp hr hmiss hv) hl
  | .notIndexable hv hg hl => .notIndexable (.fallback hp hr hmiss hv) hg hl
  | .missingKey hlast hall => by
    have halts : Address.alternatives a = (Address.firstAlternative a).1 :: Address.alternatives r :=
      Address.alternatives_of_some (by rw [← hr])
    -- the path before the mark begins as the address does, so it is a path too
    have hfirst : Address.IsPath (Address.firstAlternative a).1 := by
      unfold Address.IsPath at hp ⊢
      rw [Address.first_firstAlternative]
      exact hp
    refine .missingKey ?_ ?_
    · rw [halts, List.getLast?_cons_of_ne_nil (Address.alternatives_ne_nil r)]
      exact hlast
    · intro p hmem
      rw [halts] at hmem
      rcases List.mem_cons.1 hmem with rfl | hmem
      · exact ⟨hfirst, hmiss⟩
      · exact hall p hmem

-- ============================================================ how one call fails

section steps

variable {src : Fields} {c : Call} {a head : Text} {payload : List Text} {f : Fault}

theorem exists_of_mapError_eq_error {ε ε' α : Type} {g : ε → ε'} {x : Except ε α} {e' : ε'}
    (h : x.mapError g = .error e') : ∃ e, x = .error e ∧ e' = g e := by
  cases x with
  | error e =>
    refine ⟨e, rfl, ?_⟩
    simp only [Except.mapError, Except.error.injEq] at h
    exact h.symm
  | ok v => cases h

/-- `NULL` and `SKIP` form nothing: the call only notes the address, and may go too deep. -/
theorem error_of_room_frame {x : Value}
    (h : (if c.HasRoom then Except.ok x else .error .tooDeep) = .error f) : f = .tooDeep := by
  by_cases hc : c.HasRoom
  · rw [if_pos hc] at h
    cases h
  · rw [if_neg hc] at h
    exact (Except.error.inj h).symm

/-- An unreadable integer or decimal falls back, and fails as the fallback fails, or fails as
unreadable. -/
theorem error_of_unreadable {fb : Option (List Text)} {c' : Call}
    (h : (match fb with
      | some t => (resolve [] c' (Address.joinDots t)).outcome.mapError (Fault.fallbackFailed a)
      | none => .error (Fault.literal a .unreadable)) = .error f) :
    (∃ r, f = .literal a r) ∨ ∃ i, f = .fallbackFailed a i := by
  cases fb with
  | some t =>
    obtain ⟨e, -, rfl⟩ := exists_of_mapError_eq_error h
    exact .inr ⟨e, rfl⟩
  | none => exact .inl ⟨_, (Except.error.inj h).symm⟩

/-- A keyword address fails only by going too deep, or, for a keyword that forms a literal, with
a fault of the literal read at the address itself. -/
theorem resolve_keyword_error {kw : Keyword} (hs : Address.segments a = head :: payload)
    (hk : Keyword.ofSegment? head = some kw) (h : (resolve src c a).outcome = .error f) :
    f = .tooDeep ∨
      (kw.formsLiteral = true ∧ ((∃ r, f = .literal a r) ∨ ∃ i, f = .fallbackFailed a i)) := by
  cases kw with
  | null =>
    rw [outcome_resolve_null hs hk] at h
    exact .inl (error_of_room_frame h)
  | skip =>
    rw [outcome_resolve_skip hs hk] at h
    exact .inl (error_of_room_frame h)
  | text =>
    rw [outcome_resolve_text hs hk] at h
    rcases error_of_literal_frame h with hf | rfl | hx
    · exact .inl hf
    · exact .inr ⟨rfl, .inl ⟨_, rfl⟩⟩
    · rcases payload with _ | ⟨p, ps⟩
      · exact .inr ⟨rfl, .inl ⟨_, (Except.error.inj hx).symm⟩⟩
      · cases hx
  | list =>
    rw [outcome_resolve_list hs hk] at h
    rcases error_of_literal_frame h with hf | rfl | hx
    · exact .inl hf
    · exact .inr ⟨rfl, .inl ⟨_, rfl⟩⟩
    · rcases payload with _ | ⟨p, ps⟩ <;> cases hx
  | truth =>
    rw [outcome_resolve_truth hs hk] at h
    rcases error_of_literal_frame h with hf | rfl | hx
    · exact .inl hf
    · exact .inr ⟨rfl, .inl ⟨_, rfl⟩⟩
    · rcases payload with _ | ⟨p, ps⟩
      · exact .inr ⟨rfl, .inl ⟨_, (Except.error.inj hx).symm⟩⟩
      · simp only at hx
        split at hx
        · cases hx
        · rcases error_of_warn_frame hx with rfl | hx
          · exact .inr ⟨rfl, .inl ⟨_, rfl⟩⟩
          · exact .inr ⟨rfl, .inl ⟨_, (Except.error.inj hx).symm⟩⟩
  | integer =>
    rw [outcome_resolve_integer hs hk] at h
    rcases error_of_literal_frame h with hf | rfl | hx
    · exact .inl hf
    · exact .inr ⟨rfl, .inl ⟨_, rfl⟩⟩
    · rcases payload with _ | ⟨p, ps⟩
      · exact .inr ⟨rfl, .inl ⟨_, (Except.error.inj hx).symm⟩⟩
      · simp only at hx
        split at hx
        · cases hx
        · rcases error_of_warn_frame hx with rfl | hx
          · exact .inr ⟨rfl, .inl ⟨_, rfl⟩⟩
          · exact .inr ⟨rfl, error_of_unreadable hx⟩
  | decimal =>
    rw [outcome_resolve_decimal hs hk] at h
    rcases error_of_literal_frame h with hf | rfl | hx
    · exact .inl hf
    · exact .inr ⟨rfl, .inl ⟨_, rfl⟩⟩
    · rcases payload with _ | ⟨p, ps⟩
      · exact .inr ⟨rfl, .inl ⟨_, (Except.error.inj hx).symm⟩⟩
      · simp only at hx
        split at hx
        · cases hx
        · rcases error_of_warn_frame hx with rfl | hx
          · exact .inr ⟨rfl, .inl ⟨_, rfl⟩⟩
          · exact .inr ⟨rfl, error_of_unreadable hx⟩

/-- A path fails by going too deep; by a key applied to a value without fields on the path
before its first mark; or, when that path misses a key, as the address after the mark fails two
calls deeper, or with the address itself when there is no mark. -/
theorem resolve_path_error (hs : Address.segments a = head :: payload)
    (hk : Keyword.ofSegment? head = none) (h : (resolve src c a).outcome = .error f) :
    f = .tooDeep ∨
      (∃ k, Address.lookupIn src (Address.firstAlternative a).1 = .unindexable k ∧
        f = .notIndexable k) ∨
      (Address.lookupIn src (Address.firstAlternative a).1 = .missing ∧
        ((∃ r, (Address.firstAlternative a).2 = some r ∧
            (resolve src c.inner.inner r).outcome = .error f) ∨
          ((Address.firstAlternative a).2 = none ∧ f = .missingKey a))) := by
  rw [outcome_resolve_path hs hk] at h
  by_cases hc : c.HasRoom
  · rw [if_pos hc] at h
    rcases @findPath_tooDeep_or_lookup c.inner src (Address.firstAlternative a).1 with hf | hf
    · rw [hf, except_error_bind] at h
      exact .inl (Except.error.inj h).symm
    · rw [hf] at h
      cases hl : Address.lookupIn src (Address.firstAlternative a).1 with
      | found v =>
        rw [hl] at h
        cases h
      | unindexable k =>
        rw [hl] at h
        exact .inr (.inl ⟨k, rfl, (Except.error.inj h).symm⟩)
      | missing =>
        rw [hl, Lookup.toOutcome, except_ok_bind] at h
        by_cases hc' : c.inner.HasWarnRoom
        · rw [if_pos hc'] at h
          cases hr : (Address.firstAlternative a).2 with
          | some r =>
            rw [hr] at h
            exact .inr (.inr ⟨rfl, .inl ⟨r, rfl, h⟩⟩)
          | none =>
            rw [hr] at h
            exact .inr (.inr ⟨rfl, .inr ⟨rfl, (Except.error.inj h).symm⟩⟩)
        · rw [if_neg hc'] at h
          exact .inl (Except.error.inj h).symm
  · rw [if_neg hc] at h
    exact .inl (Except.error.inj h).symm

end steps

-- ============================================================ how resolving fails

/-- Resolving an address fails by going too deep, or in one of the ways `FaultKind` lists, at the
address or at one it goes on to. -/
theorem resolve_faultKind {src : Fields} (a : Text) :
    ∀ {c : Call} {f : Fault}, (resolve src c a).outcome = .error f → f = .tooDeep ∨ FaultKind src a f := by
  -- induction on the length of the address, which the address after a mark shortens
  induction a using (measure List.length).wf.induction with
  | h a ih =>
  intro c f h
  obtain ⟨head, payload, hs⟩ := List.exists_cons_of_ne_nil (Address.segments_ne_nil a)
  have hfirst : Address.first a = head := Address.first_of_segments hs
  cases hk : Keyword.ofSegment? head with
  | some kw =>
    have hlit : kw.formsLiteral = true → Address.IsLiteral a := fun hl => ⟨kw, hfirst ▸ hk, hl⟩
    rcases resolve_keyword_error hs hk h with hf | ⟨hl, ⟨r, rfl⟩ | ⟨i, rfl⟩⟩
    · exact .inl hf
    · exact .inr (.literal r (.refl a) (hlit hl))
    · exact .inr (.fallbackFailed i (.refl a) (hlit hl))
  | none =>
    have hp : Address.IsPath a := by
      unfold Address.IsPath
      rw [hfirst]
      exact hk
    rcases resolve_path_error hs hk h with hf | ⟨k, hl, rfl⟩ | ⟨hl, ⟨r, hr, hrf⟩ | ⟨hr, rfl⟩⟩
    · exact .inl hf
    · exact .inr (.notIndexable (.refl a) hp hl)
    · have hlt : r.length < a.length := Address.length_alternative_lt hr
      exact (ih r hlt hrf).imp_right (FaultKind.of_fallback hp hr hl)
    · -- no mark: the address is its one alternative, and it misses a key
      have halt := Address.firstAlternative_of_snd_none hr
      rw [halt] at hl
      refine .inr (.missingKey ?_ ?_)
      · rw [Address.alternatives_of_none halt]
        rfl
      · intro p hmem
        rw [Address.alternatives_of_none halt, List.mem_singleton] at hmem
        subst hmem
        exact ⟨hp, hl⟩

-- ============================================================ going too deep

/-- A path alternative whose lookup misses a key fails with the address itself when the call that
looks it up has room for the error line, and too deep otherwise. -/
theorem outcome_resolve_missing {src : Fields} {c : Call} {g : Text} (hx : Address.IsAlternative g)
    (hp : Address.IsPath g) (hmiss : Address.lookupIn src g = .missing) :
    (resolve src c g).outcome =
      if c.inner.HasWarnRoom then .error (.missingKey g) else .error .tooDeep := by
  obtain ⟨head, payload, hs⟩ := List.exists_cons_of_ne_nil (Address.segments_ne_nil g)
  have hk : Keyword.ofSegment? head = none := by
    unfold Address.IsPath at hp
    rwa [Address.first_of_segments hs] at hp
  rw [outcome_resolve_path hs hk, Address.firstAlternative_of_isAlternative hx]
  dsimp only
  by_cases hw : c.inner.HasWarnRoom
  · -- room for the error line is room for the lookup before it
    have hc' : c.inner.HasRoom := hw.hasRoom
    rw [if_pos (Call.hasRoom_of_inner hc'), outcome_findPath_eq_lookup hc', hmiss, if_pos hw,
      Lookup.toOutcome, except_ok_bind]
  · rw [if_neg hw]
    by_cases hc : c.HasRoom
    · rw [if_pos hc]
      rcases @findPath_tooDeep_or_lookup c.inner src g with hf | hf
      · rw [hf, except_error_bind]
      · rw [hf, hmiss, Lookup.toOutcome, except_ok_bind]
    · rw [if_neg hc]

/-- A chain of `n` path alternatives that all miss, and one more after them: each is tried two
calls deeper than the one before, so the chain fails with the last one missing exactly when the
call that looks up the last one still has room for its error line, and too deep otherwise. -/
theorem orChain_replicate_missing {src : Fields} {g : Text} (hx : Address.IsAlternative g)
    (hp : Address.IsPath g) (hmiss : Address.lookupIn src g = .missing) :
    ∀ (n : Nat) (c : Call), orChain src c (List.replicate n g) g =
      if c.depth + 2 * n + 1 + c.logging.warnUnits ≤ stackLimit then .error (.missingKey g)
      else .error .tooDeep
  | 0, c => by
    rw [List.replicate_zero, orChain, outcome_resolve_missing hx hp hmiss]
    by_cases hc : c.inner.HasWarnRoom
    · have hd : c.depth + 2 * 0 + 1 + c.logging.warnUnits ≤ stackLimit := by
        unfold Call.HasWarnRoom at hc
        simp only [Call.depth_inner, Call.logging_inner] at hc
        omega
      rw [if_pos hc, if_pos hd]
    · have hd : ¬ c.depth + 2 * 0 + 1 + c.logging.warnUnits ≤ stackLimit := by
        unfold Call.HasWarnRoom at hc
        simp only [Call.depth_inner, Call.logging_inner] at hc
        omega
      rw [if_neg hc, if_neg hd]
  | n + 1, c => by
    rw [List.replicate_succ, orChain, outcome_resolve_missing hx hp hmiss]
    by_cases hc : c.inner.HasWarnRoom
    · -- the first alternative misses, and the rest of the chain runs two calls deeper
      rw [if_pos hc]
      dsimp only
      rw [orChain_replicate_missing hx hp hmiss n c.inner.inner]
      by_cases hd : c.depth + 2 * (n + 1) + 1 + c.logging.warnUnits ≤ stackLimit
      · rw [if_pos hd, if_pos (by simp only [Call.depth_inner, Call.logging_inner]; omega)]
      · rw [if_neg hd, if_neg (by simp only [Call.depth_inner, Call.logging_inner]; omega)]
    · have hd : ¬ c.depth + 2 * (n + 1) + 1 + c.logging.warnUnits ≤ stackLimit := by
        unfold Call.HasWarnRoom at hc
        simp only [Call.depth_inner, Call.logging_inner] at hc
        omega
      rw [if_neg hc, if_neg hd]

/-- A chain written out holds a nonempty first alternative and a mark, so it is longer than
`SKIP`. -/
theorem intercalate_or_ne_skipText {x : Text} (hx : x ≠ []) (y : Text) (ys : List Text) :
    Address.orMark.intercalate (x :: y :: ys) ≠ skipText := by
  intro h
  have hlen := congrArg List.length h
  rw [List.intercalate_cons_cons] at hlen
  simp only [List.length_append, skipText, Text.length_ofString] at hlen
  have hx' : 0 < x.length := List.length_pos_iff.2 hx
  have hmark : Address.orMark.length = 4 := rfl
  have hskip : "SKIP".length = 4 := rfl
  omega

/-- `x.OR.x.OR.⋯.OR.x`, 501 alternatives of a missing key, as the one leaf of a map with no
sources. Each alternative is tried two calls deeper than the one before, and the chain runs off
the stack before its last alternative: mapping fails too deep, with none of the faults of
resolving. -/
theorem applyMap_long_chain_tooDeep :
    (applyMap [] Call.quiet (.obj [(Text.ofString "k",
      .str (Address.orMark.intercalate (List.replicate 501 (Text.ofString "x"))))])).outcome =
      .error .tooDeep := by
  have hx : Address.IsAlternative (Text.ofString "x") ∧ Address.IsPath (Text.ofString "x") := by
    decide
  have hchain : (resolve [] Call.quiet.inner
      (Address.orMark.intercalate (List.replicate 501 (Text.ofString "x")))).outcome =
      .error .tooDeep := by
    rw [List.replicate_succ', outcome_intercalate_or
        (fun g hg => (List.eq_of_mem_replicate hg) ▸ hx),
      orChain_replicate_missing hx.1 hx.2 rfl, if_neg (by decide)]
  have hne : Address.orMark.intercalate (List.replicate 501 (Text.ofString "x")) ≠ skipText := by
    rw [List.replicate_succ, List.replicate_succ]
    exact intercalate_or_ne_skipText (by decide) _ _
  rw [applyMap_eq_mapValue rfl, outcome_mapValue_obj, if_pos (by decide),
    outcome_mapEntries_str (by decide) rfl rfl hne, hchain]
  rfl

-- ============================================================ how mapping fails

section mapping

variable {src : Fields} {c : Call} {f : Fault}

/-- A step that notes before going on fails by going too deep, or as what comes after it
fails. -/
theorem error_of_noteAt_bind {α : Type} {n : Note} {g : Unit → Run α}
    (h : (Run.noteAt c n >>= g).outcome = .error f) : f = .tooDeep ∨ (g ()).outcome = .error f := by
  rw [Narrated.outcome_bind, Run.outcome_noteAt] at h
  by_cases hfit : Run.fits c n
  · rw [if_pos hfit, except_ok_bind] at h
    exact .inr h
  · rw [if_neg hfit, except_error_bind] at h
    exact .inl (Except.error.inj h).symm

/-- A bound computation fails as its first part fails, or as its second part fails on the
result of the first. -/
theorem error_of_bind {α β : Type} {x : Run α} {g : α → Run β}
    (h : (x >>= g).outcome = .error f) :
    x.outcome = .error f ∨ ∃ v, x.outcome = .ok v ∧ (g v).outcome = .error f := by
  rw [Narrated.outcome_bind] at h
  exact except_bind_eq_error.1 h

/-- Putting one more entry before a result never fails. -/
theorem error_of_bind_cons {x : Run Fields} {e : Text × Value}
    (h : (x >>= fun rs => pure (e :: rs)).outcome = .error f) : x.outcome = .error f := by
  rcases error_of_bind h with hx | ⟨rs, -, hrs⟩
  · exact hx
  · cases hrs

theorem Value.entriesMap_tail {k : Text} {a : Value} {rest : Fields}
    (h : Value.entriesMap ((k, a) :: rest) = true) : Value.entriesMap rest = true := by
  cases a with
  | str s => simpa [Value.entriesMap] using h
  | obj inner =>
    simp only [Value.entriesMap, Bool.and_eq_true] at h
    exact h.2
  | _ => simp [Value.entriesMap] at h

variable (haddr : Value.field? src (Text.ofString Reserved.address.word) = none)
include haddr

/-- The entries of a map of texts and maps fail by going too deep, or as one of their leaves
fails to resolve. -/
theorem mapEntries_faultKind :
    ∀ {c : Call} {m : Fields} {f : Fault}, Value.entriesMap m = true →
      (mapEntries src c m).outcome = .error f →
      f = .tooDeep ∨ ∃ l ∈ entriesLeaves c m, FaultKind src l.2 f
  | _, [], _, _, h => by cases h
  | c, (k, a) :: rest, f, hm, h => by
    -- a failure of the entries after the first is a failure of a leaf of the whole
    have hrest : (mapEntries src c rest).outcome = .error f →
        f = .tooDeep ∨ ∃ l ∈ entriesLeaves c ((k, a) :: rest), FaultKind src l.2 f := fun hr =>
      (mapEntries_faultKind (Value.entriesMap_tail hm) hr).imp_right <| Exists.imp fun l hl =>
        ⟨by simp [entriesLeaves, hl.1], hl.2⟩
    cases a with
    | str s =>
      simp only [mapEntries] at h
      rcases error_of_noteAt_bind h with hf | h
      · exact .inl hf
      by_cases hskip : s = skipText
      · subst hskip
        simp only [Value.isSkip_str, skipText, beq_self_eq_true, if_true] at h
        rcases error_of_noteAt_bind h with hf | h
        · exact .inl hf
        · exact hrest h
      · have hs : (s == Text.ofString "SKIP") = false := by simpa [skipText] using hskip
        simp only [Value.isSkip_str, hs, Bool.false_eq_true, if_false, resolveEntry_str haddr] at h
        rcases error_of_bind h with hr | ⟨r, -, h⟩
        · -- the leaf itself fails to resolve
          refine (resolve_faultKind s hr).imp_right fun hkind => ⟨(c.inner, s), ?_, hkind⟩
          rw [entriesLeaves_str hskip]
          exact List.mem_cons_self
        · split at h
          · rcases error_of_noteAt_bind h with hf | h
            · exact .inl hf
            · exact hrest h
          · exact hrest (error_of_bind_cons h)
    | obj inner =>
      have hinner : Value.entriesMap inner = true := by
        simp only [Value.entriesMap, Bool.and_eq_true] at hm
        exact hm.1
      simp only [mapEntries] at h
      rcases error_of_noteAt_bind h with hf | h
      · exact .inl hf
      simp only [Value.isSkip, Bool.false_eq_true, if_false] at h
      rcases error_of_noteAt_bind h with hf | h
      · exact .inl hf
      rcases error_of_bind h with hv | ⟨r, -, h⟩
      · -- the nested map fails, in its own entries or in logging itself
        rw [outcome_mapValue_obj] at hv
        split at hv
        · refine (mapEntries_faultKind hinner hv).imp_right <| Exists.imp fun l hl => ⟨?_, hl.2⟩
          rw [entriesLeaves_obj]
          exact List.mem_append_left _ hl.1
        · exact .inl (Except.error.inj hv).symm
      · exact hrest (error_of_bind_cons h)
    | _ => simp [Value.entriesMap] at hm

variable (hmap : Value.field? src (Text.ofString Reserved.map.word) = none)
include hmap

/-- Applying a map of texts and maps, to sources that take neither reserved name, fails either by
going too deep or as one of its leaves fails to resolve, in one of the ways `FaultKind` lists.
No failure of it is a value error, an index error or an attribute error. -/
theorem applyMap_faultKind {m : Fields} (hm : Value.entriesMap m = true)
    (h : (applyMap src c (.obj m)).outcome = .error f) :
    (f = .tooDeep ∨ ∃ l ∈ entriesLeaves c m, FaultKind src l.2 f) ∧
      f.errorClass ≠ .value ∧ f.errorClass ≠ .index ∧ f.errorClass ≠ .attribute := by
  rw [applyMap_eq_mapValue hmap, outcome_mapValue_obj] at h
  have hkinds : f = .tooDeep ∨ ∃ l ∈ entriesLeaves c m, FaultKind src l.2 f := by
    split at h
    · exact mapEntries_faultKind haddr hm h
    · exact .inl (Except.error.inj h).symm
  refine ⟨hkinds, ?_⟩
  rcases hkinds with rfl | ⟨l, -, hkind⟩
  · exact ⟨nofun, nofun, nofun⟩
  · rcases hkind.errorClass_mem with hc | hc | hc <;> rw [hc] <;> exact ⟨nofun, nofun, nofun⟩

end mapping

/-- The map `{"k": "x.OR.y"}` with no sources: both keys are missing, and mapping fails with the
last one, as one of the faults of resolving. -/
theorem applyMap_faultKind_last_missing :
    Value.field? [] (Text.ofString Reserved.address.word) = none ∧
      Value.field? [] (Text.ofString Reserved.map.word) = none ∧
      Value.entriesMap [(Text.ofString "k", .str (Text.ofString "x.OR.y"))] = true ∧
      (applyMap [] Call.quiet (.obj [(Text.ofString "k", .str (Text.ofString "x.OR.y"))])).outcome =
        .error (.missingKey (Text.ofString "y")) ∧
      ((Fault.missingKey (Text.ofString "y") = .tooDeep ∨
          ∃ l ∈ entriesLeaves Call.quiet [(Text.ofString "k", .str (Text.ofString "x.OR.y"))],
            FaultKind [] l.2 (.missingKey (Text.ofString "y"))) ∧
        (Fault.missingKey (Text.ofString "y")).errorClass ≠ .value ∧
        (Fault.missingKey (Text.ofString "y")).errorClass ≠ .index ∧
        (Fault.missingKey (Text.ofString "y")).errorClass ≠ .attribute) := by
  have hm : Value.entriesMap [(Text.ofString "k", .str (Text.ofString "x.OR.y"))] = true := by
    simp [Value.entriesMap]
  have hxy : Text.ofString "x.OR.y" = Text.ofString "x" ++ Address.orMark ++ Text.ofString "y" := by
    decide
  have hout : (applyMap [] Call.quiet
      (.obj [(Text.ofString "k", .str (Text.ofString "x.OR.y"))])).outcome =
      .error (.missingKey (Text.ofString "y")) := by
    rw [applyMap_eq_mapValue rfl, outcome_mapValue_obj, if_pos (by decide),
      outcome_mapEntries_str (by decide) rfl rfl (by decide), hxy,
      outcome_or_of_isPath (by decide) (by decide),
      outcome_resolve_missing (by decide) (by decide) rfl, if_pos (by decide)]
    rw [outcome_resolve_missing (by decide) (by decide) rfl, if_pos (by decide)]
    rfl
  exact ⟨rfl, rfl, hm, hout, applyMap_faultKind rfl rfl hm hout⟩

end Remap
