import Remap.MapTree
import Remap.Proofs.Marks
/-!
What resolving ends in.

The outcome of a run never depends on its notes (`Remap.Narrated`), but whether a note can be
made at all depends on how deep its call stands (`Remap.Run`). Every note that resolving makes
is *plain*: it shows neither a map nor a value in literal form, so it fits exactly when the call
has room for one log call (`Call.HasRoom`), or, for a warning or an error, room for that line
(`Call.HasWarnRoom`), which leaves room for any other. The lemmas below give, branch by branch,
the outcome of `resolve`, `findPath` and `descend` with every note reduced to such a room
condition. Later proofs cite them and never unfold these definitions.
-/

namespace Remap

/-- Whether a call can make a plain note: one log call still fits on the stack. -/
def Call.HasRoom (c : Call) : Prop := c.depth + c.logging.units ≤ stackLimit

instance : DecidablePred Call.HasRoom :=
  fun c => inferInstanceAs (Decidable (c.depth + c.logging.units ≤ stackLimit))

/-- Whether a call can log a warning or an error. -/
def Call.HasWarnRoom (c : Call) : Prop := c.depth + c.logging.warnUnits ≤ stackLimit

instance : DecidablePred Call.HasWarnRoom :=
  fun c => inferInstanceAs (Decidable (c.depth + c.logging.warnUnits ≤ stackLimit))

/-- A call that its caller makes stands deeper, so its room leaves room for the caller. -/
theorem Call.hasRoom_of_inner {c : Call} (h : c.inner.HasRoom) : c.HasRoom := by
  unfold Call.HasRoom at *
  simp only [Call.depth_inner, Call.logging_inner] at h
  omega

/-- Room for a warning is room for any plain line. -/
theorem Call.HasWarnRoom.hasRoom {c : Call} (h : c.HasWarnRoom) : c.HasRoom :=
  Nat.le_trans (Nat.add_le_add_left c.logging.units_le_warnUnits c.depth) h

namespace Run

@[simp] theorem outcome_noteAt (c : Call) (n : Note) :
    (noteAt c n).outcome = if fits c n then .ok () else .error .tooDeep :=
  outcome_noteOr .tooDeep c n

-- ============================================================ plain notes

@[simp] theorem fits_resolving_str (c : Call) (a : Text) :
    fits c (.resolving (.str a)) = decide c.HasRoom := rfl

@[simp] theorem fits_nullValue (c : Call) : fits c .nullValue = decide c.HasRoom := rfl

@[simp] theorem fits_literal (c : Call) (k : Keyword) (segs : List Text) :
    fits c (.literal k segs) = decide c.HasRoom := rfl

@[simp] theorem fits_step (c : Call) (k : Text) : fits c (.step k) = decide c.HasRoom := rfl

-- ============================================================ warnings and errors

@[simp] theorem fits_literalFailed (c : Call) (k : Keyword) (p : Text) :
    fits c (.literalFailed k p) = decide c.HasWarnRoom := rfl

@[simp] theorem fits_integerFallback (c : Call) (p t : Text) :
    fits c (.integerFallback p t) = decide c.HasWarnRoom := rfl

@[simp] theorem fits_decimalFallback (c : Call) (p t : Text) :
    fits c (.decimalFallback p t) = decide c.HasWarnRoom := rfl

@[simp] theorem fits_pathFallback (c : Call) (p t : Text) :
    fits c (.pathFallback p t) = decide c.HasWarnRoom := rfl

@[simp] theorem fits_lookupFailed (c : Call) (a : Text) :
    fits c (.lookupFailed a) = decide c.HasWarnRoom := rfl

end Run

@[simp] theorem except_ok_bind {ε α β : Type} (a : α) (f : α → Except ε β) :
    (Except.ok a >>= f) = f a := rfl

@[simp] theorem except_error_bind {ε α β : Type} (e : ε) (f : α → Except ε β) :
    (Except.error e >>= f) = .error e := rfl

/-- A bound computation gives a result only after the first part gives one. -/
theorem except_bind_eq_ok {ε α β : Type} {x : Except ε α} {f : α → Except ε β} {b : β} :
    (x >>= f) = .ok b ↔ ∃ a, x = .ok a ∧ f a = .ok b := by
  cases x <;> simp

/-- A bound computation fails with the failure of its first part, or of its second. -/
theorem except_bind_eq_error {ε α β : Type} {x : Except ε α} {f : α → Except ε β} {e : ε} :
    (x >>= f) = .error e ↔ x = .error e ∨ ∃ a, x = .ok a ∧ f a = .error e := by
  cases x <;> simp

@[simp] theorem Narrated.outcome_mapFailure_eq {ν ε ε' α : Type} (f : ε → ε')
    (x : Narrated ν ε α) : (x.mapFailure f).outcome = x.outcome.mapError f := by
  rw [Narrated.outcome_mapFailure]
  cases x.outcome <;> rfl

/-- The outcome of a choice between two computations is the choice between their outcomes. -/
theorem Narrated.outcome_ite {ν ε α : Type} (p : Prop) [Decidable p] (x y : Narrated ν ε α) :
    (if p then x else y).outcome = if p then x.outcome else y.outcome := by
  split <;> rfl

-- ============================================================ path lookups

/-- One key applied on a path: a field of an object, nothing for a missing field, a failure
for a value without fields. -/
theorem outcome_descend_cons (c : Call) (v : Value) (k : Text) (ks : List Text) :
    (descend c v (k :: ks)).outcome =
      if c.HasRoom then
        match v with
        | .obj fs =>
          match Value.field? fs k with
          | some w => (descend c w ks).outcome
          | none => .ok none
        | v => .error (.notIndexable v.kind)
      else .error .tooDeep := by
  by_cases hc : c.HasRoom
  · cases v with
    | obj fs => cases h : Value.field? fs k <;> simp [descend, hc, h]
    | _ => simp [descend, hc]
  · cases v <;> simp [descend, hc]

@[simp] theorem outcome_descend_nil (c : Call) (v : Value) :
    (descend c v []).outcome = .ok (some v) := rfl

/-- A path lookup takes its first key among the sources, with no note, and descends from there. -/
theorem outcome_findPath {src : Fields} {c : Call} {path k : Text} {ks : List Text}
    (hs : Address.segments path = k :: ks) :
    (findPath src c path).outcome =
      match Value.field? src k with
      | none => .ok none
      | some v => (descend c v ks).outcome := by
  cases h : Value.field? src k <;> simp [findPath, hs, h]

-- ============================================================ resolving

section resolve

variable {src : Fields} {c : Call} {a head : Text} {payload : List Text}

/-- Resolving a path: its first alternative is looked up one call deeper, and when a key on it
is missing, the address after the mark is resolved two calls deeper, after a warning; with no
address after it, the lookup fails after an error line. -/
theorem outcome_resolve_path (hs : Address.segments a = head :: payload)
    (hk : Keyword.ofSegment? head = none) :
    (resolve src c a).outcome =
      if c.HasRoom then
        (findPath src c.inner (Address.firstAlternative a).1).outcome >>= fun
        | some v => .ok v
        | none =>
          if c.inner.HasWarnRoom then
            match (Address.firstAlternative a).2 with
            | some r => (resolve src c.inner.inner r).outcome
            | none => .error (.missingKey a)
          else .error .tooDeep
      else .error .tooDeep := by
  rw [resolve]
  split
  · simp_all
  · rename_i head' payload' hs'
    obtain ⟨rfl, rfl⟩ := List.cons.inj (hs.symm.trans hs')
    simp only [hk]
    by_cases hc : c.HasRoom
    case neg => simp [hc]
    case pos =>
      simp only [Narrated.outcome_bind, Run.outcome_noteAt, Run.fits_resolving_str, hc,
        decide_true, if_true, except_ok_bind]
      cases (findPath src c.inner (Address.firstAlternative a).1).outcome with
      | error f => rfl
      | ok o =>
        cases o with
        | some v => rfl
        | none =>
          simp only [except_ok_bind]
          by_cases hw : c.inner.HasWarnRoom
          case neg => split <;> simp [hw]
          case pos =>
            split
            case h_1 r hr => simp [hw, hr]
            case h_2 hr => simp [hw, hr]

/-- `NULL` resolves to nothing. -/
theorem outcome_resolve_null (hs : Address.segments a = head :: payload)
    (hk : Keyword.ofSegment? head = some .null) :
    (resolve src c a).outcome = if c.HasRoom then .ok .null else .error .tooDeep := by
  rw [resolve]
  split
  · simp_all
  · rename_i head' payload' hs'
    obtain ⟨rfl, rfl⟩ := List.cons.inj (hs.symm.trans hs')
    by_cases hc : c.HasRoom
    case pos => simp [hk, hc]
    case neg => simp [hk, hc]

/-- `SKIP` resolves to the text `SKIP`. -/
theorem outcome_resolve_skip (hs : Address.segments a = head :: payload)
    (hk : Keyword.ofSegment? head = some .skip) :
    (resolve src c a).outcome =
      if c.HasRoom then .ok (.str (Text.ofString "SKIP")) else .error .tooDeep := by
  rw [resolve]
  split
  · simp_all
  · rename_i head' payload' hs'
    obtain ⟨rfl, rfl⟩ := List.cons.inj (hs.symm.trans hs')
    by_cases hc : c.HasRoom
    case pos => simp [hk, hc]
    case neg => simp [hk, hc]

/-- `STRING.p` is the text of its second segment. -/
theorem outcome_resolve_text (hs : Address.segments a = head :: payload)
    (hk : Keyword.ofSegment? head = some .text) :
    (resolve src c a).outcome =
      if c.HasRoom then
        if c.inner.HasRoom then
          match payload with
          | p :: _ => .ok (.str p)
          | [] => .error (.literal a .missingPayload)
        else .error (.literal a .tooDeep)
      else .error .tooDeep := by
  rw [resolve]
  split
  · simp_all
  · rename_i head' payload' hs'
    obtain ⟨rfl, rfl⟩ := List.cons.inj (hs.symm.trans hs')
    by_cases hc : c.HasRoom
    case neg => simp [hk, hc]
    case pos =>
      by_cases hi : c.inner.HasRoom
      case neg => simp [hk, hc, hi, Run.noteOr]
      case pos =>
        cases payload with
        | nil => simp [hk, hc, hi, Run.noteOr]
        | cons p ps => simp [hk, hc, hi, Run.noteOr]

/-- `LIST.p` is its second segment cut at commas; `LIST` alone is the empty list. -/
theorem outcome_resolve_list (hs : Address.segments a = head :: payload)
    (hk : Keyword.ofSegment? head = some .list) :
    (resolve src c a).outcome =
      if c.HasRoom then
        if c.inner.HasRoom then
          match payload with
          | p :: _ => .ok (.arr ((listItems p).map .str))
          | [] => .ok (.arr [])
        else .error (.literal a .tooDeep)
      else .error .tooDeep := by
  rw [resolve]
  split
  · simp_all
  · rename_i head' payload' hs'
    obtain ⟨rfl, rfl⟩ := List.cons.inj (hs.symm.trans hs')
    by_cases hc : c.HasRoom
    case neg => simp [hk, hc]
    case pos =>
      by_cases hi : c.inner.HasRoom
      case neg => simp [hk, hc, hi, Run.noteOr]
      case pos =>
        cases payload with
        | nil => simp [hk, hc, hi, Run.noteOr]
        | cons p ps => simp [hk, hc, hi, Run.noteOr]

/-- `BOOL.p` is the truth value its second segment spells, and fails, after an error line, for
any other word. -/
theorem outcome_resolve_truth (hs : Address.segments a = head :: payload)
    (hk : Keyword.ofSegment? head = some .truth) :
    (resolve src c a).outcome =
      if c.HasRoom then
        if c.inner.HasRoom then
          match payload with
          | p :: _ =>
            match truthOf? p with
            | some b => .ok (.bool b)
            | none =>
              if c.inner.HasWarnRoom then .error (.literal a .notTruthWord)
              else .error (.literal a .tooDeep)
          | [] => .error (.literal a .missingPayload)
        else .error (.literal a .tooDeep)
      else .error .tooDeep := by
  rw [resolve]
  split
  · simp_all
  · rename_i head' payload' hs'
    obtain ⟨rfl, rfl⟩ := List.cons.inj (hs.symm.trans hs')
    by_cases hc : c.HasRoom
    case neg => simp [hk, hc]
    case pos =>
      by_cases hi : c.inner.HasRoom
      case neg => simp [hk, hc, hi, Run.noteOr]
      case pos =>
        cases payload with
        | nil => simp [hk, hc, hi, Run.noteOr]
        | cons p ps =>
          cases hb : truthOf? p with
          | some b => simp [hk, hc, hi, hb, Run.noteOr]
          | none =>
            by_cases hw : c.inner.HasWarnRoom
            case pos => simp [hk, hc, hi, hb, hw, Run.noteOr]
            case neg => simp [hk, hc, hi, hb, hw, Run.noteOr]

/-- `INT.p` is the integer its second segment writes. An unreadable one falls back, after a
warning, to the segments after its first segment `OR`, resolved with no sources, when there are
at least three segments after the keyword, and fails after an error line otherwise. -/
theorem outcome_resolve_integer (hs : Address.segments a = head :: payload)
    (hk : Keyword.ofSegment? head = some .integer) :
    (resolve src c a).outcome =
      if c.HasRoom then
        if c.inner.HasRoom then
          match payload with
          | p :: _ =>
            match integerOf? p with
            | some n => .ok (.int n)
            | none =>
              if c.inner.HasWarnRoom then
                match Address.fallback? 3 payload with
                | some t =>
                  (resolve [] c.inner.inner (Address.joinDots t)).outcome.mapError
                    (.fallbackFailed a)
                | none => .error (.literal a .unreadable)
              else .error (.literal a .tooDeep)
          | [] => .error (.literal a .missingPayload)
        else .error (.literal a .tooDeep)
      else .error .tooDeep := by
  rw [resolve]
  split
  · simp_all
  · rename_i head' payload' hs'
    obtain ⟨rfl, rfl⟩ := List.cons.inj (hs.symm.trans hs')
    by_cases hc : c.HasRoom
    case neg => simp [hk, hc]
    case pos =>
      by_cases hi : c.inner.HasRoom
      case neg => simp [hk, hc, hi, Run.noteOr]
      case pos =>
        cases payload with
        | nil => simp [hk, hc, hi, Run.noteOr]
        | cons p ps =>
          cases hn : integerOf? p with
          | some n => simp [hk, hc, hi, hn, Run.noteOr]
          | none =>
            simp only [hk, hn, Narrated.outcome_bind, Run.outcome_noteAt, Run.fits_resolving_str,
              Run.fits_literal, Run.outcome_noteOr, hc, hi, decide_true, if_true, except_ok_bind]
            by_cases hw : c.inner.HasWarnRoom
            case neg => split <;> simp [hw]
            case pos =>
              split
              case h_1 t ht => simp [hw, ht, -Narrated.outcome_mapFailure]
              case h_2 ht => simp [hw, ht]

/-- `FLOAT.w.f` is the decimal `w.f`, or `w` when `f` is no digit text. An unreadable one
falls back as an integer does, when there are at least two segments after the keyword. -/
theorem outcome_resolve_decimal (hs : Address.segments a = head :: payload)
    (hk : Keyword.ofSegment? head = some .decimal) :
    (resolve src c a).outcome =
      if c.HasRoom then
        if c.inner.HasRoom then
          match payload with
          | _ :: _ =>
            match decimalOf? payload with
            | some x => .ok (.float x)
            | none =>
              if c.inner.HasWarnRoom then
                match Address.fallback? 2 payload with
                | some t =>
                  (resolve [] c.inner.inner (Address.joinDots t)).outcome.mapError
                    (.fallbackFailed a)
                | none => .error (.literal a .unreadable)
              else .error (.literal a .tooDeep)
          | [] => .error (.literal a .missingPayload)
        else .error (.literal a .tooDeep)
      else .error .tooDeep := by
  rw [resolve]
  split
  · simp_all
  · rename_i head' payload' hs'
    obtain ⟨rfl, rfl⟩ := List.cons.inj (hs.symm.trans hs')
    by_cases hc : c.HasRoom
    case neg => simp [hk, hc]
    case pos =>
      by_cases hi : c.inner.HasRoom
      case neg => simp [hk, hc, hi, Run.noteOr]
      case pos =>
        cases payload with
        | nil => simp [hk, hc, hi, Run.noteOr]
        | cons p ps =>
          cases decimalOf? (p :: ps) with
          | some x => simp [hk, hc, hi, Run.noteOr]
          | none =>
            simp only [hk, Narrated.outcome_bind, Run.outcome_noteAt, Run.fits_resolving_str,
              Run.fits_literal, Run.outcome_noteOr, hc, hi, decide_true, if_true, except_ok_bind]
            by_cases hw : c.inner.HasWarnRoom
            case neg => split <;> simp [hw]
            case pos =>
              split
              case h_1 t ht => simp [hw, ht, -Narrated.outcome_mapFailure]
              case h_2 ht => simp [hw, ht]

end resolve

-- ============================================================ the frame of a literal

section frame

variable {c : Call} {a : Text}

/-- The frame every literal is formed in: the call notes its address, and the call it makes
notes the literal; either may go too deep. -/
theorem error_of_literal_frame {x : Except Fault Value} {f : Fault}
    (h : (if c.HasRoom then if c.inner.HasRoom then x else .error (.literal a .tooDeep)
      else .error .tooDeep) = .error f) :
    f = .tooDeep ∨ f = .literal a .tooDeep ∨ x = .error f := by
  by_cases hc : c.HasRoom
  · by_cases hc' : c.inner.HasRoom
    · rw [if_pos hc, if_pos hc'] at h
      exact .inr (.inr h)
    · rw [if_pos hc, if_neg hc'] at h
      exact .inr (.inl (Except.error.inj h).symm)
  · rw [if_neg hc] at h
    exact .inl (Except.error.inj h).symm

/-- A literal gives a value only when both calls of its frame have room. -/
theorem ok_of_literal_frame {x : Except Fault Value} {e e' : Fault} {r : Value}
    (h : (if c.HasRoom then if c.inner.HasRoom then x else .error e else .error e') = .ok r) :
    c.HasRoom ∧ c.inner.HasRoom ∧ x = .ok r := by
  by_cases hc : c.HasRoom
  · by_cases hi : c.inner.HasRoom
    · rw [if_pos hc, if_pos hi] at h
      exact ⟨hc, hi, h⟩
    · rw [if_pos hc, if_neg hi] at h
      cases h
  · rw [if_neg hc] at h
    cases h

/-- Two literals formed in the same frame give the same value, or none, when what they read does;
which fault they fail with may differ. -/
theorem toOption_literal_frame {x x' : Except Fault Value} {e₁ e₂ e₁' e₂' : Fault}
    (h : x.toOption = x'.toOption) :
    (if c.HasRoom then if c.inner.HasRoom then x else .error e₁ else .error e₂).toOption =
      (if c.HasRoom then if c.inner.HasRoom then x' else .error e₁' else .error e₂').toOption := by
  by_cases hc : c.HasRoom
  · by_cases hi : c.inner.HasRoom
    · rw [if_pos hc, if_pos hi, if_pos hc, if_pos hi]
      exact h
    · rw [if_pos hc, if_neg hi, if_pos hc, if_neg hi]
      rfl
  · rw [if_neg hc, if_neg hc]
    rfl

/-- After a literal is read and found unreadable, the call that forms it logs a warning or an
error line, which may go too deep there. -/
theorem error_of_warn_frame {x : Except Fault Value} {f : Fault}
    (h : (if c.inner.HasWarnRoom then x else .error (.literal a .tooDeep)) = .error f) :
    f = .literal a .tooDeep ∨ x = .error f := by
  by_cases hw : c.inner.HasWarnRoom
  · rw [if_pos hw] at h
    exact .inr h
  · rw [if_neg hw] at h
    exact .inl (Except.error.inj h).symm

/-- A choice between two failures gives no value. -/
theorem toOption_ite_error {ε α : Type} (p : Prop) [Decidable p] (e e' : ε) :
    (if p then (.error e : Except ε α) else .error e').toOption = none := by
  split <;> rfl

end frame

end Remap
