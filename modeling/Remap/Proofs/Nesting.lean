import Mathlib
import Remap.Proofs.Literals
/-!
How deep resolving nests.

`resolve` calls itself only to resolve a fallback address: the address after the first `.OR.`
of a path whose key is missing, or the segments after the first segment `OR` of an integer or
decimal that cannot be read. Each such call comes right after its caller notes the fallback
(`Note.isFallback`), and no call makes more than one: the run of a call notes no fallback, or
its notes are its own, exactly one fallback note, and the notes of the one call it makes
(`resolve_atMostOneCall`, `Run.HandsOver`). So the calls that resolving an address makes form
one chain, one call longer than the fallbacks its run notes (`Run.fallbacks`).

A fallback address has fewer segments `OR` than the address it falls back from, since the
segment `OR` that the path or the literal took is gone from it (`orCount_alternative_lt`,
`orCount_fallback_lt`). So resolving an address takes at most as many fallbacks as the address
has segments `OR` (`fallbacks_resolve_le`), and the chain of calls is at most one longer.
Applying a map resolves each of its leaves in a chain of its own, so it takes at most as many
fallbacks as all its leaves have segments `OR` together (`fallbacks_applyMap_le`).
-/

namespace Remap

/-- Whether a note is made right before a call that resolves a fallback address. -/
def Note.isFallback : Note → Bool
  | .integerFallback _ _ | .decimalFallback _ _ | .pathFallback _ _ => true
  | _ => false

/-- The segments `OR` of an address. -/
def Address.orCount (a : Text) : Nat := (Address.segments a).count Address.orWord

/-- The fallbacks a run takes, as its notes show them. -/
def Run.fallbacks {α : Type} (x : Run α) : Nat := x.notes.countP Note.isFallback

-- ============================================================ counting notes

theorem Narrated.notes_bind {ν ε α β : Type} (x : Narrated ν ε α) (f : α → Narrated ν ε β) :
    (x >>= f).notes = x.notes ++ match x.outcome with
      | .ok a => (f a).notes
      | .error _ => [] := by
  show (Narrated.bind x f).notes = _
  unfold Narrated.bind
  cases x.outcome <;> simp

namespace Run

variable {α β : Type}

@[simp] theorem fallbacks_pure (a : α) : Run.fallbacks (Pure.pure a : Run α) = 0 := rfl

@[simp] theorem fallbacks_fail (f : Fault) : Run.fallbacks (Narrated.fail f : Run α) = 0 := rfl

@[simp] theorem fallbacks_mapFailure (g : Fault → Fault) (x : Run α) :
    Run.fallbacks (x.mapFailure g) = x.fallbacks := rfl

theorem fallbacks_noteOr_le (f : Fault) (c : Call) (n : Note) :
    (noteOr f c n).fallbacks ≤ if n.isFallback then 1 else 0 := by
  unfold noteOr fallbacks
  split
  · by_cases h : n.isFallback <;> simp [Narrated.note, h]
  · simp [Narrated.fail]

/-- A bound run takes the fallbacks of its first part, then those of its second. -/
theorem fallbacks_bind_le {x : Run α} {f : α → Run β} {m k : Nat} (hx : x.fallbacks ≤ m)
    (hf : ∀ a, (f a).fallbacks ≤ k) : (x >>= f).fallbacks ≤ m + k := by
  unfold fallbacks at *
  rw [Narrated.notes_bind, List.countP_append]
  cases x.outcome with
  | ok a => exact Nat.add_le_add hx (hf a)
  | error e =>
    simp only [List.countP_nil]
    omega

/-- A run that takes no fallback adds none before another. -/
theorem fallbacks_bind_le_of_zero {x : Run α} {f : α → Run β} {k : Nat} (hx : x.fallbacks = 0)
    (hf : ∀ a, (f a).fallbacks ≤ k) : (x >>= f).fallbacks ≤ k := by
  have := fallbacks_bind_le (Nat.le_of_eq hx) hf
  omega

/-- Any note but a fallback adds no fallback before a run. -/
theorem fallbacks_plain_bind {f : Fault} {c : Call} {n : Note} (hn : n.isFallback = false)
    {g : Unit → Run β} {k : Nat} (hg : ∀ u, (g u).fallbacks ≤ k) :
    (noteOr f c n >>= g).fallbacks ≤ k := by
  have := fallbacks_bind_le (fallbacks_noteOr_le f c n) hg
  simpa [hn] using this

end Run

-- ============================================================ path lookups take no fallback

theorem fallbacks_descend (c : Call) :
    ∀ (v : Value) (ks : List Text), (descend c v ks).fallbacks = 0
  | _, [] => rfl
  | v, k :: ks => by
    apply Nat.le_zero.1
    by_cases hv : ∃ fs, v = .obj fs
    · obtain ⟨fs, rfl⟩ := hv
      rw [descend.eq_2]
      refine Run.fallbacks_plain_bind rfl fun _ => ?_
      split
      · exact Nat.le_of_eq (fallbacks_descend c _ ks)
      · simp
    · rw [descend.eq_3 c v k ks fun fs h => hv ⟨fs, h⟩]
      exact Run.fallbacks_plain_bind rfl fun _ => by simp

theorem fallbacks_findPath (src : Fields) (c : Call) (path : Text) :
    (findPath src c path).fallbacks = 0 := by
  unfold findPath
  split
  · rfl
  · split
    · rfl
    · exact fallbacks_descend c _ _

-- ============================================================ fallback addresses

namespace Address

/-- The address after the first `.OR.` has one segment `OR` fewer at least: the mark's. -/
theorem orCount_alternative_lt {a r : Text} (h : (firstAlternative a).2 = some r) :
    orCount r < orCount a := by
  unfold firstAlternative at h
  split at h
  · cases h
  · rename_i b rest hb
    obtain rfl : rest = r := Option.some.inj h
    have ha : a = b ++ orMark ++ rest := (Text.breakOn_eq_some hb).symm
    rw [orCount, orCount, ha, segments_or, List.count_append, List.count_cons_self]
    omega

/-- Segments joined back have no more segments `OR` than they had. -/
theorem orCount_joinDots_le {t : List Text} (h : ∀ s ∈ t, dot ∉ s) :
    orCount (joinDots t) ≤ t.count orWord := by
  cases t with
  | nil => simp [orCount, joinDots, Text.joinWith, segments, Text.splitOn, orWord]
  | cons s t =>
    have heq : orCount (joinDots (s :: t)) = (s :: t).count orWord := by
      rw [orCount, segments_joinDots (List.cons_ne_nil s t) h]
    exact Nat.le_of_eq heq

/-- The segments after the first segment `OR` of a literal's payload, joined, have fewer
segments `OR` than the address: that one is gone. -/
theorem orCount_fallback_lt {a head : Text} {payload t : List Text}
    (hs : segments a = head :: payload) (ht : after orWord payload = some t) :
    orCount (joinDots t) < orCount a := by
  obtain ⟨pre, rfl, -⟩ := eq_append_of_after ht
  have hdot : ∀ s ∈ t, dot ∉ s := fun s hm =>
    dot_not_mem_of_mem_segments (by rw [hs]; simp [hm])
  have hle := orCount_joinDots_le hdot
  have hcount : orCount a = (head :: pre).count orWord + (t.count orWord + 1) := by
    rw [orCount, hs, ← List.cons_append, List.count_append, List.count_cons_self]
  omega

end Address

-- ============================================================ one call after one fallback

namespace Run

variable {α β : Type}

/-- A run hands over to `y` when its notes are notes of its own with no fallback among them, one
fallback note, and then the notes of `y`. -/
def HandsOver (x : Run α) (y : Run β) : Prop :=
  ∃ (pre : List Note) (n : Note), pre.countP Note.isFallback = 0 ∧ n.isFallback = true ∧
    x.notes = pre ++ n :: y.notes

/-- A run that hands over notes one fallback more than the run it hands over to. -/
theorem HandsOver.fallbacks_eq {x : Run α} {y : Run β} (h : x.HandsOver y) :
    x.fallbacks = y.fallbacks + 1 := by
  obtain ⟨pre, n, hpre, hn, hx⟩ := h
  unfold fallbacks
  rw [hx, List.countP_append, List.countP_cons_of_pos hn, hpre]
  omega

/-- A run that notes no fallback, or that hands over to a call resolving, in `c'`, an address
`a'` among sources `src'` that `ok` accepts. -/
def AtMostOneCall (x : Run α) (c' : Call) (ok : Fields → Text → Prop) : Prop :=
  x.fallbacks = 0 ∨ ∃ src' a', ok src' a' ∧ x.HandsOver (resolve src' c' a')

variable {c' : Call} {ok : Fields → Text → Prop}

/-- A run that notes no fallback keeps what the run after it does. -/
theorem atMostOneCall_bind {x : Run α} {g : α → Run β} (hx : x.fallbacks = 0)
    (hg : ∀ a, (g a).AtMostOneCall c' ok) : (x >>= g).AtMostOneCall c' ok := by
  have hnotes := Narrated.notes_bind x g
  cases hout : x.outcome with
  | error e =>
    -- the run stops with the first part
    left
    simp only [hout] at hnotes
    unfold fallbacks at hx ⊢
    rw [hnotes, List.append_nil, hx]
  | ok a =>
    simp only [hout] at hnotes
    rcases hg a with h0 | ⟨src', a', hok, pre, n, hpre, hn, hga⟩
    · left
      unfold fallbacks at hx h0 ⊢
      rw [hnotes, List.countP_append, hx, h0]
    · right
      refine ⟨src', a', hok, x.notes ++ pre, n, ?_, hn, ?_⟩
      · rw [List.countP_append, hpre]
        exact hx
      · rw [hnotes, hga, List.append_assoc]

/-- Any note but a fallback keeps what the run after it does. -/
theorem atMostOneCall_plain_bind {f : Fault} {c : Call} {n : Note} (hn : n.isFallback = false)
    {g : Unit → Run β} (hg : ∀ u, (g u).AtMostOneCall c' ok) :
    (noteOr f c n >>= g).AtMostOneCall c' ok := by
  have hzero : (noteOr f c n).fallbacks = 0 := by
    simpa [hn] using fallbacks_noteOr_le f c n
  exact atMostOneCall_bind hzero hg

/-- A fallback note hands over to the call that follows it, when the note fits. -/
theorem atMostOneCall_fallback_bind {f : Fault} {c : Call} {n : Note} (hn : n.isFallback = true)
    {y : Run β} {src' : Fields} {a' : Text} (hok : ok src' a')
    (hy : y.notes = (resolve src' c' a').notes) : (noteOr f c n >>= fun _ => y).AtMostOneCall c' ok := by
  rw [AtMostOneCall, fallbacks, Narrated.notes_bind]
  by_cases hfit : fits c n
  · right
    refine ⟨src', a', hok, [], n, rfl, hn, ?_⟩
    rw [Narrated.notes_bind]
    simp [noteOr, hfit, Narrated.note, hy]
  · left
    simp [noteOr, hfit, Narrated.fail]

end Run

/-- Resolving calls itself at most once, two calls deeper, on an address with fewer segments
`OR`, and only right after noting the fallback: its run notes no fallback, or it hands over,
after exactly one fallback note, to that one call. -/
theorem resolve_atMostOneCall (src : Fields) (c : Call) (a : Text) :
    (resolve src c a).AtMostOneCall c.inner.inner
      fun _ a' => Address.orCount a' < Address.orCount a := by
  rw [resolve]
  refine Run.atMostOneCall_plain_bind rfl fun _ => ?_
  split
  · exact .inl rfl
  · rename_i head payload hs
    dsimp only
    -- the cases follow the keyword: `NULL`, `SKIP`, `STRING`, `LIST`, `BOOL`, `INT`, `FLOAT`,
    -- and a path; only the last three may call again
    split
    · exact Run.atMostOneCall_plain_bind rfl fun _ => .inl rfl
    · exact .inl rfl
    · refine Run.atMostOneCall_plain_bind rfl fun _ => ?_
      split <;> exact .inl rfl
    · refine Run.atMostOneCall_plain_bind rfl fun _ => ?_
      split <;> exact .inl rfl
    · refine Run.atMostOneCall_plain_bind rfl fun _ => ?_
      split
      · split
        · exact .inl rfl
        · exact Run.atMostOneCall_plain_bind rfl fun _ => .inl rfl
      · exact .inl rfl
    · refine Run.atMostOneCall_plain_bind rfl fun _ => ?_
      split
      · exact .inl rfl
      · split
        · exact .inl rfl
        · split
          · rename_i t hf
            exact Run.atMostOneCall_fallback_bind rfl
              (Address.orCount_fallback_lt hs (Address.after_of_fallback? hf)) rfl
          · exact Run.atMostOneCall_plain_bind rfl fun _ => .inl rfl
    · refine Run.atMostOneCall_plain_bind rfl fun _ => ?_
      split
      · exact .inl rfl
      · split
        · exact .inl rfl
        · split
          · rename_i t hf
            exact Run.atMostOneCall_fallback_bind rfl
              (Address.orCount_fallback_lt hs (Address.after_of_fallback? hf)) rfl
          · exact Run.atMostOneCall_plain_bind rfl fun _ => .inl rfl
    · -- the path before the first mark is looked up, and the address after it resolved
      refine Run.atMostOneCall_bind (fallbacks_findPath src c.inner _) fun o => ?_
      split
      · exact .inl rfl
      · split
        · rename_i r hr
          exact Run.atMostOneCall_fallback_bind rfl (Address.orCount_alternative_lt hr) rfl
        · exact Run.atMostOneCall_plain_bind rfl fun _ => .inl rfl

/-- Resolving an address takes at most as many fallbacks as the address has segments `OR`: each
fallback hands over to a call on an address with fewer. -/
theorem fallbacks_resolve_le (src : Fields) (c : Call) (a : Text) :
    (resolve src c a).fallbacks ≤ Address.orCount a := by
  rcases resolve_atMostOneCall src c a with h0 | ⟨src', a', hlt, hover⟩
  · omega
  · have hrest := fallbacks_resolve_le src' c.inner.inner a'
    rw [hover.fallbacks_eq]
    omega
termination_by Address.orCount a

-- ============================================================ applying a map

/-- Resolving an entry takes at most as many fallbacks as its leaf has segments `OR`, and none
when it holds no text. -/
theorem fallbacks_resolveEntry_le (src : Fields) (c : Call) {a : Value} (ha : a.isSkip = false) :
    (resolveEntry src c.inner a).fallbacks ≤
      ((leaves c a).map fun l => Address.orCount l.2).sum := by
  unfold resolveEntry
  split
  · simp
  · cases a with
    | str s =>
      have hs : s ≠ skipText := by simpa [Value.isSkip, skipText] using ha
      simpa [leaves, hs] using fallbacks_resolve_le src c.inner s
    | _ => exact Run.fallbacks_plain_bind rfl fun _ => by simp

/-- Mapping entries takes at most as many fallbacks as their leaves have segments `OR`. -/
theorem fallbacks_mapEntries_le (src : Fields) : ∀ (c : Call) (m : Fields),
    (mapEntries src c m).fallbacks ≤ ((entriesLeaves c m).map fun l => Address.orCount l.2).sum
  | c, [] => by simp [mapEntries]
  | c, (k, a) :: rest => by
    have ih := fallbacks_mapEntries_le src c rest
    by_cases hobj : ∃ inner, a = .obj inner
    · obtain ⟨inner, rfl⟩ := hobj
      -- a nested map is applied one call deeper, before the rest
      have hinner : (mapValue src c.inner (.obj inner)).fallbacks ≤
          ((entriesLeaves c.inner inner).map fun l => Address.orCount l.2).sum := by
        rw [mapValue.eq_1]
        exact Run.fallbacks_plain_bind rfl fun _ => fallbacks_mapEntries_le src c.inner inner
      rw [mapEntries.eq_2, entriesLeaves_obj, List.map_append, List.sum_append]
      refine Run.fallbacks_plain_bind rfl fun _ => ?_
      rw [if_neg (by simp [Value.isSkip])]
      refine Run.fallbacks_plain_bind rfl fun _ => Run.fallbacks_bind_le hinner fun _ => ?_
      exact Nat.le_trans (Run.fallbacks_bind_le ih fun _ => by simp) (Nat.le_of_eq (Nat.add_zero _))
    · rw [mapEntries.eq_3 src c k a rest fun inner h => hobj ⟨inner, h⟩]
      refine Run.fallbacks_plain_bind rfl fun _ => ?_
      split
      · -- an address `SKIP` is left out unresolved
        rename_i hskip
        obtain rfl : a = .str skipText := by
          cases a <;> simp_all [Value.isSkip, skipText]
        rw [entriesLeaves_skip]
        exact Run.fallbacks_plain_bind rfl fun _ => ih
      · rename_i hskip
        have hleaves : entriesLeaves c ((k, a) :: rest) = leaves c a ++ entriesLeaves c rest := by
          simp [entriesLeaves]
        rw [hleaves, List.map_append, List.sum_append]
        refine Run.fallbacks_bind_le (fallbacks_resolveEntry_le src c (by simpa using hskip))
          fun r => ?_
        split
        · exact Run.fallbacks_plain_bind rfl fun _ => ih
        · exact Nat.le_trans (Run.fallbacks_bind_le ih fun _ => by simp)
            (Nat.le_of_eq (Nat.add_zero _))

/-- Applying a map takes at most as many fallbacks as all its leaves have segments `OR`. -/
theorem fallbacks_applyMap_le (src : Fields) (c : Call) (m : Fields) :
    (applyMap src c (.obj m)).fallbacks ≤
      ((entriesLeaves c m).map fun l => Address.orCount l.2).sum := by
  unfold applyMap
  split
  · simp
  · rw [mapValue.eq_1]
    exact Run.fallbacks_plain_bind rfl fun _ => fallbacks_mapEntries_le src c m

/-- Resolving calls itself only to resolve a fallback, right after noting it, and every fallback
address has fewer segments `OR`. So resolving an address notes at most as many fallbacks as the
address has segments `OR`, and runs in a chain of at most one call more; applying a map notes at
most as many as all its leaves have segments `OR` together. -/
theorem resolve_nesting_le_orCount :
    (∀ (src : Fields) (c : Call) (a : Text), (resolve src c a).fallbacks ≤ Address.orCount a) ∧
    ∀ (src : Fields) (c : Call) (m : Fields),
      (applyMap src c (.obj m)).fallbacks ≤
        ((entriesLeaves c m).map fun l => Address.orCount l.2).sum :=
  ⟨fallbacks_resolve_le, fallbacks_applyMap_le⟩

-- the bound is reached when every alternative misses, and when an integer cannot be read
example : (resolve [] Call.quiet (Text.ofString "a.OR.b.OR.c")).fallbacks =
    Address.orCount (Text.ofString "a.OR.b.OR.c") := by
  decide +kernel

example : (resolve [] Call.quiet (Text.ofString "INT.x.y.OR.b.OR.c")).fallbacks =
    Address.orCount (Text.ofString "INT.x.y.OR.b.OR.c") := by
  decide +kernel

end Remap
