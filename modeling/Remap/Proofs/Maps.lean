import Mathlib.Data.List.Forall2
import Remap.Proofs.Outcome
/-!
Applying a map, leaf by leaf.

A map is an object whose entries hold texts or, again, maps (`Value.entriesMap`). Applying it
resolves its texts in depth-first order, each in a call one deeper than the call of the map
holding it (`entriesLeaves`), and applies each nested map in a call one deeper again
(`subMaps`). Every call that applies a map first logs the map and the sources as one-line JSON;
`DumpsFit` says that all of these fit on the stack.

When they do, and the log is dropped, the notes of mapping never fail, so applying a map is
decided by its leaves alone (`applyMap_leafwise`): it fails with the failure of the first
leaf that fails, and otherwise keeps the map's keys in order less those whose address is `SKIP`
or resolves to `SKIP`, gives each nested map the result of applying it, gives each other key
what its address resolves to, and no result of any of these calls holds the text `SKIP`. Since
`DumpsFit` passes down to every nested map (`DumpsFit.nested`), the same holds of each of them,
at any depth (`applyMap_noSkip_everyDepth`).
-/

namespace Remap

/-- The text that marks an entry to be left out. -/
def skipText : Text := Text.ofString "SKIP"

-- ============================================================ the shape of a map

/-- Whether entries hold only texts and maps whose entries do the same. -/
def Value.entriesMap : Fields → Bool
  | [] => true
  | (_, .str _) :: rest => Value.entriesMap rest
  | (_, .obj inner) :: rest => Value.entriesMap inner && Value.entriesMap rest
  | _ :: _ => false

mutual

/-- The maps that a value holds, each with the call that applies it, when the value stands as
an entry of a map applied in the call `c`: a nested map, then the maps nested in it. -/
def subMaps (c : Call) : Value → List (Call × Value)
  | .obj entries => (c.inner, .obj entries) :: entriesSubMaps c.inner entries
  | _ => []

/-- The maps nested in the entries of a map applied in the call `c`. -/
def entriesSubMaps (c : Call) : Fields → List (Call × Value)
  | [] => []
  | (_, a) :: rest => subMaps c a ++ entriesSubMaps c rest

end

mutual

/-- The addresses that a value resolves, each with the call that resolves it, when the value
stands as an entry of a map applied in the call `c`: a text other than `SKIP`, or the addresses
of a nested map. -/
def leaves (c : Call) : Value → List (Call × Text)
  | .str a => if a = skipText then [] else [(c.inner, a)]
  | .obj entries => entriesLeaves c.inner entries
  | _ => []

/-- The addresses that the entries of a map applied in the call `c` resolve, depth first. -/
def entriesLeaves (c : Call) : Fields → List (Call × Text)
  | [] => []
  | (_, a) :: rest => leaves c a ++ entriesLeaves c rest

end

/-- Every map applied when a map is applied in the call `c` can log itself and the sources: the
map itself and each map nested in it. -/
def DumpsFit (src : Fields) (c : Call) (m : Fields) : Prop :=
  Run.fits c (.beginMap (.obj m) src) ∧ ∀ p ∈ entriesSubMaps c m, Run.fits p.1 (.beginMap p.2 src)

/-- Whether an entry keeps its key in the result: a nested map always does, and a text unless
it is `SKIP` or resolves to `SKIP`. -/
def keeps (src : Fields) (c : Call) : Text × Value → Bool
  | (_, .str a) =>
    a != skipText &&
      match (resolve src c.inner a).outcome with
      | .ok r => !r.isSkip
      | .error _ => true
  | _ => true

/-- The failure of the first of the leaves that fails, the leaves taken in order. -/
def firstFault (src : Fields) (ls : List (Call × Text)) : Option Fault :=
  ls.findSome? fun l =>
    match (resolve src l.1 l.2).outcome with
    | .error f => some f
    | .ok _ => none

/-- What applying a map in the call `c` puts for an entry it keeps: the same key, with the nested
map applied one call deeper, or with the address resolved one call deeper to a value other than
`SKIP`. -/
def EntryMapped (src : Fields) (c : Call) : Text × Value → Text × Value → Prop
  | (k, .obj inner), (k', r) =>
    k' = k ∧ ∃ R, r = .obj R ∧ (applyMap src c.inner (.obj inner)).outcome = .ok R
  | (k, .str a), (k', r) => k' = k ∧ (resolve src c.inner a).outcome = .ok r ∧ r.isSkip = false
  | _, _ => False

-- ============================================================ leaves and kept keys

section leaves

variable {src : Fields} {c : Call} {k : Text} {rest : Fields}

@[simp] theorem entriesLeaves_nil : entriesLeaves c [] = [] := by
  simp [entriesLeaves]

@[simp] theorem entriesLeaves_skip : entriesLeaves c ((k, .str skipText) :: rest) = entriesLeaves c rest := by
  simp [entriesLeaves, leaves]

@[simp] theorem entriesLeaves_str {a : Text} (ha : a ≠ skipText) :
    entriesLeaves c ((k, .str a) :: rest) = (c.inner, a) :: entriesLeaves c rest := by
  simp [entriesLeaves, leaves, ha]

@[simp] theorem entriesLeaves_obj {inner : Fields} :
    entriesLeaves c ((k, .obj inner) :: rest) = entriesLeaves c.inner inner ++ entriesLeaves c rest := by
  simp [entriesLeaves, leaves]

@[simp] theorem firstFault_nil : firstFault src [] = none := rfl

theorem firstFault_append (ls ls' : List (Call × Text)) :
    firstFault src (ls ++ ls') = (firstFault src ls).or (firstFault src ls') :=
  List.findSome?_append

theorem firstFault_cons_of_error {a : Text} {f : Fault} (ls : List (Call × Text))
    (h : (resolve src c a).outcome = .error f) : firstFault src ((c, a) :: ls) = some f := by
  simp [firstFault, h]

theorem firstFault_cons_of_ok {a : Text} {r : Value} (ls : List (Call × Text))
    (h : (resolve src c a).outcome = .ok r) : firstFault src ((c, a) :: ls) = firstFault src ls := by
  simp [firstFault, h]

@[simp] theorem keeps_skip : keeps src c (k, .str skipText) = false := by
  simp [keeps]

@[simp] theorem keeps_obj (inner : Fields) : keeps src c (k, .obj inner) = true := rfl

theorem keeps_str_of_ok {a : Text} {r : Value} (ha : a ≠ skipText)
    (h : (resolve src c.inner a).outcome = .ok r) : keeps src c (k, .str a) = !r.isSkip := by
  simp [keeps, ha, h]

end leaves

-- ============================================================ the steps of mapping

namespace Run

@[simp] theorem fits_skipKey (c : Call) (k : Text) : fits c (.skipKey k) = decide c.HasRoom := rfl

@[simp] theorem fits_nested (c : Call) (k : Text) : fits c (.nested k) = decide c.HasRoom := rfl

/-- With the log dropped, taking up an entry is a plain note. -/
theorem fits_entry {c : Call} (hlog : c.logging.showAt = none) (k : Text) (a : Value) :
    fits c (.entry k a) = decide c.HasRoom := by
  cases a <;> simp only [fits, Note.units, Logging.shown, hlog] <;> rfl

/-- A call that can log a map has room for a plain note. -/
theorem hasRoom_of_fits_beginMap {c : Call} {m : Value} {src : Fields}
    (h : fits c (.beginMap m src)) : c.HasRoom := by
  have h' := of_decide_eq_true h
  simp only [Note.units] at h'
  unfold Call.HasRoom
  omega

end Run

section steps

variable {src : Fields} {c : Call}

theorem outcome_mapValue_obj (m : Fields) :
    (mapValue src c (.obj m)).outcome =
      if Run.fits c (.beginMap (.obj m) src) then (mapEntries src c m).outcome
      else .error .tooDeep := by
  by_cases h : Run.fits c (.beginMap (.obj m) src) <;> simp [mapValue, h]

/-- With no source named `map_dict`, applying a map is mapping its value. -/
theorem applyMap_eq_mapValue (hmap : Value.field? src (Text.ofString Reserved.map.word) = none)
    (m : Value) : applyMap src c m = mapValue src c m := by
  simp [applyMap, hmap]

/-- With no source named `address`, an entry's text is resolved as it is. -/
theorem resolveEntry_str (haddr : Value.field? src (Text.ofString Reserved.address.word) = none)
    (a : Text) : resolveEntry src c (.str a) = resolve src c a := by
  simp [resolveEntry, haddr]

@[simp] theorem outcome_mapEntries_nil : (mapEntries src c []).outcome = .ok [] := rfl

variable (hroom : c.HasRoom) (hlog : c.logging.showAt = none)
include hroom hlog

/-- An entry whose address is `SKIP` is left out. -/
theorem outcome_mapEntries_skip (k : Text) (rest : Fields) :
    (mapEntries src c ((k, .str skipText) :: rest)).outcome = (mapEntries src c rest).outcome := by
  simp [mapEntries, Run.fits_entry hlog, hroom, skipText]

/-- An entry holding a nested map gets the nested map applied one call deeper. -/
theorem outcome_mapEntries_obj (k : Text) (inner rest : Fields) :
    (mapEntries src c ((k, .obj inner) :: rest)).outcome =
      ((mapValue src c.inner (.obj inner)).outcome >>= fun r =>
        (mapEntries src c rest).outcome >>= fun rs => .ok ((k, .obj r) :: rs)) := by
  simp [mapEntries, Run.fits_entry hlog, hroom, Value.isSkip]

/-- An entry holding any other text gets it resolved one call deeper, and is left out when it
resolves to `SKIP`. -/
theorem outcome_mapEntries_str
    (haddr : Value.field? src (Text.ofString Reserved.address.word) = none)
    {a : Text} (ha : a ≠ skipText) (k : Text) (rest : Fields) :
    (mapEntries src c ((k, .str a) :: rest)).outcome =
      ((resolve src c.inner a).outcome >>= fun r =>
        if r.isSkip then (mapEntries src c rest).outcome
        else (mapEntries src c rest).outcome >>= fun rs => .ok ((k, r) :: rs)) := by
  have ha' : (a == Text.ofString "SKIP") = false := by simpa [skipText] using ha
  simp only [mapEntries, Narrated.outcome_bind, Run.outcome_noteAt, Run.fits_entry hlog,
    decide_eq_true hroom, if_true, except_ok_bind, Value.isSkip_str, ha',
    Bool.false_eq_true, if_false, resolveEntry_str haddr]
  cases (resolve src c.inner a).outcome with
  | error f => rfl
  | ok r => by_cases hr : r.isSkip <;> simp [hr, hroom]

end steps

-- ============================================================ ready entries

/-- What the entries of a map applied in the call `c` need so that no note of mapping them
fails: they are a map's entries, the call has room, the log is dropped, and every map nested in
them can log itself and the sources. -/
structure EntriesReady (src : Fields) (c : Call) (m : Fields) : Prop where
  map : Value.entriesMap m = true
  room : c.HasRoom
  quiet : c.logging.showAt = none
  fits : ∀ p ∈ entriesSubMaps c m, Run.fits p.1 (.beginMap p.2 src)

namespace EntriesReady

variable {src : Fields} {c : Call} {k : Text} {rest : Fields}

theorem of_dumpsFit {m : Fields} (hm : Value.entriesMap m = true)
    (hlog : c.logging.showAt = none) (hfit : DumpsFit src c m) : EntriesReady src c m :=
  ⟨hm, Run.hasRoom_of_fits_beginMap hfit.1, hlog, hfit.2⟩

/-- The entries after the first are ready too. -/
theorem tail {e : Text × Value} (h : EntriesReady src c (e :: rest)) : EntriesReady src c rest := by
  obtain ⟨k, a⟩ := e
  refine ⟨?_, h.room, h.quiet, fun p hp => h.fits p (by simp [entriesSubMaps, hp])⟩
  have hm := h.map
  cases a with
  | str s => simpa [Value.entriesMap] using hm
  | obj inner =>
    simp only [Value.entriesMap, Bool.and_eq_true] at hm
    exact hm.2
  | _ => simp [Value.entriesMap] at hm

/-- A nested map can log itself one call deeper, and its own entries are ready there. -/
theorem obj_inner {inner : Fields} (h : EntriesReady src c ((k, .obj inner) :: rest)) :
    Run.fits c.inner (.beginMap (.obj inner) src) ∧ EntriesReady src c.inner inner := by
  have hm : Value.entriesMap inner = true ∧ Value.entriesMap rest = true := by
    simpa [Value.entriesMap] using h.map
  have hfit : Run.fits c.inner (.beginMap (.obj inner) src) :=
    h.fits (c.inner, .obj inner) (by simp [entriesSubMaps, subMaps])
  refine ⟨hfit, hm.1, Run.hasRoom_of_fits_beginMap hfit, by simpa using h.quiet, ?_⟩
  intro p hp
  exact h.fits p (by simp [entriesSubMaps, subMaps, hp])

/-- A nested map of ready entries is applied as its own entries are mapped. -/
theorem outcome_nested {inner : Fields} (h : EntriesReady src c ((k, .obj inner) :: rest)) :
    (mapValue src c.inner (.obj inner)).outcome = (mapEntries src c.inner inner).outcome := by
  rw [outcome_mapValue_obj, if_pos h.obj_inner.1]

-- the steps of mapping ready entries, read backwards from their outcome

variable (haddr : Value.field? src (Text.ofString Reserved.address.word) = none)
include haddr

/-- A text entry that maps without failing resolved, and then was left out for `SKIP` or put
before the rest. -/
theorem ok_str {a : Text} {R : Fields} (h : EntriesReady src c ((k, .str a) :: rest))
    (ha : a ≠ skipText) (hR : (mapEntries src c ((k, .str a) :: rest)).outcome = .ok R) :
    ∃ r, (resolve src c.inner a).outcome = .ok r ∧
      ((r.isSkip = true ∧ (mapEntries src c rest).outcome = .ok R) ∨
        (r.isSkip = false ∧ ∃ rs, (mapEntries src c rest).outcome = .ok rs ∧ R = (k, r) :: rs)) := by
  rw [outcome_mapEntries_str h.room h.quiet haddr ha] at hR
  obtain ⟨r, hr, hrest⟩ := except_bind_eq_ok.1 hR
  refine ⟨r, hr, ?_⟩
  cases hs : r.isSkip
  · simp only [hs, Bool.false_eq_true, if_false] at hrest
    obtain ⟨rs, hrs, hR'⟩ := except_bind_eq_ok.1 hrest
    exact .inr ⟨rfl, rs, hrs, (Except.ok.inj hR').symm⟩
  · simp only [hs, if_true] at hrest
    exact .inl ⟨rfl, hrest⟩

/-- A text entry that fails fails in resolving, or in the entries after it. -/
theorem error_str {a : Text} {f : Fault} (h : EntriesReady src c ((k, .str a) :: rest))
    (ha : a ≠ skipText) (hR : (mapEntries src c ((k, .str a) :: rest)).outcome = .error f) :
    (resolve src c.inner a).outcome = .error f ∨
      ∃ r, (resolve src c.inner a).outcome = .ok r ∧ (mapEntries src c rest).outcome = .error f := by
  rw [outcome_mapEntries_str h.room h.quiet haddr ha] at hR
  rcases except_bind_eq_error.1 hR with hr | ⟨r, hr, hrest⟩
  · exact .inl hr
  · refine .inr ⟨r, hr, ?_⟩
    cases hs : r.isSkip
    · simp only [hs, Bool.false_eq_true, if_false] at hrest
      rcases except_bind_eq_error.1 hrest with hrs | ⟨rs, -, hrs⟩
      · exact hrs
      · cases hrs
    · simpa [hs] using hrest

omit haddr in
/-- A nested map entry that maps without failing put the nested result before the rest. -/
theorem ok_obj {inner R : Fields} (h : EntriesReady src c ((k, .obj inner) :: rest))
    (hR : (mapEntries src c ((k, .obj inner) :: rest)).outcome = .ok R) :
    ∃ r rs, (mapEntries src c.inner inner).outcome = .ok r ∧
      (mapEntries src c rest).outcome = .ok rs ∧ R = (k, .obj r) :: rs := by
  rw [outcome_mapEntries_obj h.room h.quiet, h.outcome_nested] at hR
  obtain ⟨r, hr, hrest⟩ := except_bind_eq_ok.1 hR
  obtain ⟨rs, hrs, hR'⟩ := except_bind_eq_ok.1 hrest
  exact ⟨r, rs, hr, hrs, (Except.ok.inj hR').symm⟩

omit haddr in
/-- A nested map entry that fails fails in the nested map, or in the entries after it. -/
theorem error_obj {inner : Fields} {f : Fault} (h : EntriesReady src c ((k, .obj inner) :: rest))
    (hR : (mapEntries src c ((k, .obj inner) :: rest)).outcome = .error f) :
    (mapEntries src c.inner inner).outcome = .error f ∨
      ∃ r, (mapEntries src c.inner inner).outcome = .ok r ∧
        (mapEntries src c rest).outcome = .error f := by
  rw [outcome_mapEntries_obj h.room h.quiet, h.outcome_nested] at hR
  rcases except_bind_eq_error.1 hR with hr | ⟨r, hr, hrest⟩
  · exact .inl hr
  · refine .inr ⟨r, hr, ?_⟩
    rcases except_bind_eq_error.1 hrest with hrs | ⟨rs, -, hrs⟩
    · exact hrs
    · cases hrs

end EntriesReady

-- ============================================================ nested maps

/-- The maps nested in the entries of a map of texts and maps, at any depth, each with the call
that applies it: each is a map of texts and maps too, stands in a call that logs as the outer one
does, and can log itself and the sources, with all the maps nested in it, when all the maps
nested in the outer one can. -/
theorem entriesSubMaps_dumpsFit {src : Fields} :
    ∀ {c : Call} {m : Fields}, Value.entriesMap m = true →
      (∀ p ∈ entriesSubMaps c m, Run.fits p.1 (.beginMap p.2 src)) →
      ∀ p ∈ entriesSubMaps c m, ∃ inner, p.2 = .obj inner ∧ p.1.logging = c.logging ∧
        Value.entriesMap inner = true ∧ DumpsFit src p.1 inner
  | _, [], _, _, p, hp => by simp [entriesSubMaps] at hp
  | c, (k, a) :: rest, hm, hfits, p, hp => by
    have hrest : ∀ q ∈ entriesSubMaps c rest, Run.fits q.1 (.beginMap q.2 src) := fun q hq =>
      hfits q (by simp [entriesSubMaps, hq])
    rw [entriesSubMaps, List.mem_append] at hp
    rcases hp with hp | hp
    · cases a with
      | obj inner =>
        have hmi : Value.entriesMap inner = true := by
          simp only [Value.entriesMap, Bool.and_eq_true] at hm
          exact hm.1
        -- the nested map's own maps are among the outer map's
        have hinner : DumpsFit src c.inner inner :=
          ⟨hfits (c.inner, .obj inner) (by simp [entriesSubMaps, subMaps]),
            fun q hq => hfits q (by simp [entriesSubMaps, subMaps, hq])⟩
        rw [subMaps, List.mem_cons] at hp
        rcases hp with rfl | hp
        · exact ⟨inner, rfl, rfl, hmi, hinner⟩
        · exact entriesSubMaps_dumpsFit hmi hinner.2 p hp
      | _ => simp [subMaps] at hp
    · have hmr : Value.entriesMap rest = true := by
        cases a with
        | str s => simpa [Value.entriesMap] using hm
        | obj inner =>
          simp only [Value.entriesMap, Bool.and_eq_true] at hm
          exact hm.2
        | _ => simp [Value.entriesMap] at hm
      exact entriesSubMaps_dumpsFit hmr hrest p hp

/-- `DumpsFit` passes down to every map nested in a map of texts and maps, at any depth. -/
theorem DumpsFit.nested {src : Fields} {c : Call} {m : Fields} (hm : Value.entriesMap m = true)
    (hfit : DumpsFit src c m) :
    ∀ p ∈ entriesSubMaps c m, ∃ inner, p.2 = .obj inner ∧ p.1.logging = c.logging ∧
      Value.entriesMap inner = true ∧ DumpsFit src p.1 inner :=
  entriesSubMaps_dumpsFit hm hfit.2

-- ============================================================ mapping, leaf by leaf

section leafwise

variable {src : Fields}
  (haddr : Value.field? src (Text.ofString Reserved.address.word) = none)
include haddr

/-- Ready entries that map without failing have no leaf that fails, keep the entries that
`keeps` keeps, in order, each mapped as `EntryMapped` says, and place no `SKIP`. -/
theorem mapEntries_ok_leafwise
    (hmap : Value.field? src (Text.ofString Reserved.map.word) = none) :
    ∀ {c : Call} {m R : Fields}, EntriesReady src c m → (mapEntries src c m).outcome = .ok R →
      firstFault src (entriesLeaves c m) = none ∧
        List.Forall₂ (EntryMapped src c) (m.filter (keeps src c)) R ∧ ∀ e ∈ R, e.2.isSkip = false
  | _, [], R, _, hR => by
    obtain rfl : R = [] := (Except.ok.inj hR).symm
    simp
  | c, (k, a) :: rest, R, h, hR => by
    cases a with
    | str a =>
      by_cases ha : a = skipText
      · subst ha
        rw [outcome_mapEntries_skip h.room h.quiet] at hR
        simpa using mapEntries_ok_leafwise hmap h.tail hR
      · obtain ⟨r, hr, ⟨hs, hrest⟩ | ⟨hs, rs, hrest, rfl⟩⟩ := h.ok_str haddr ha hR
        · obtain ⟨hnone, hmapped, hplaced⟩ := mapEntries_ok_leafwise hmap h.tail hrest
          refine ⟨?_, ?_, hplaced⟩
          · rw [entriesLeaves_str ha, firstFault_cons_of_ok _ hr, hnone]
          · rw [List.filter_cons_of_neg (by simp [keeps_str_of_ok ha hr, hs])]
            exact hmapped
        · obtain ⟨hnone, hmapped, hplaced⟩ := mapEntries_ok_leafwise hmap h.tail hrest
          refine ⟨?_, ?_, ?_⟩
          · rw [entriesLeaves_str ha, firstFault_cons_of_ok _ hr, hnone]
          · rw [List.filter_cons_of_pos (by simp [keeps_str_of_ok ha hr, hs])]
            exact .cons ⟨rfl, hr, hs⟩ hmapped
          · simpa [hs] using hplaced
    | obj inner =>
      obtain ⟨r, rs, hr, hrest, rfl⟩ := h.ok_obj hR
      obtain ⟨hnone, -, -⟩ := mapEntries_ok_leafwise hmap h.obj_inner.2 hr
      obtain ⟨hnone', hmapped, hplaced⟩ := mapEntries_ok_leafwise hmap h.tail hrest
      -- the nested map is applied as a whole: its result is the one that `applyMap` gives
      have hnested : (applyMap src c.inner (.obj inner)).outcome = .ok r := by
        rw [applyMap_eq_mapValue hmap, h.outcome_nested, hr]
      refine ⟨?_, ?_, ?_⟩
      · rw [entriesLeaves_obj, firstFault_append, hnone, hnone']
        rfl
      · rw [List.filter_cons_of_pos (keeps_obj inner)]
        exact .cons ⟨rfl, r, rfl, hnested⟩ hmapped
      · simpa [Value.isSkip] using hplaced
    | _ => exact absurd h.map (by simp [Value.entriesMap])

/-- Ready entries that fail fail with the failure of their first leaf that fails. -/
theorem mapEntries_error_leafwise
    (hmap : Value.field? src (Text.ofString Reserved.map.word) = none) :
    ∀ {c : Call} {m : Fields} {f : Fault}, EntriesReady src c m →
      (mapEntries src c m).outcome = .error f → firstFault src (entriesLeaves c m) = some f
  | _, [], _, _, hR => by cases hR
  | c, (k, a) :: rest, f, h, hR => by
    cases a with
    | str a =>
      by_cases ha : a = skipText
      · subst ha
        rw [outcome_mapEntries_skip h.room h.quiet] at hR
        simpa using mapEntries_error_leafwise hmap h.tail hR
      · rw [entriesLeaves_str ha]
        rcases h.error_str haddr ha hR with hr | ⟨r, hr, hrest⟩
        · exact firstFault_cons_of_error _ hr
        · rw [firstFault_cons_of_ok _ hr]
          exact mapEntries_error_leafwise hmap h.tail hrest
    | obj inner =>
      rw [entriesLeaves_obj, firstFault_append]
      rcases h.error_obj hR with hr | ⟨r, hr, hrest⟩
      · rw [mapEntries_error_leafwise hmap h.obj_inner.2 hr]
        rfl
      · -- the nested map mapped without failing, so none of its leaves failed
        rw [(mapEntries_ok_leafwise haddr hmap h.obj_inner.2 hr).1,
          mapEntries_error_leafwise hmap h.tail hrest]
        rfl
    | _ => exact absurd h.map (by simp [Value.entriesMap])

end leafwise

/-- Applying a map whose maps can all log themselves, with the log dropped, is decided by its
leaves. It fails exactly when some leaf fails, with the failure of the first leaf that fails in
depth-first order. Otherwise its result keeps, in order, the entries that `keeps` keeps (all but
those whose address is `SKIP` or resolves to `SKIP`), gives each nested map what applying it one
call deeper gives and each other entry what its address resolves to one call deeper, and places
no `SKIP`; applied to the nested maps, the same holds at every depth. -/
theorem applyMap_leafwise {src : Fields} {c : Call} {m : Fields}
    (hm : Value.entriesMap m = true)
    (haddr : Value.field? src (Text.ofString Reserved.address.word) = none)
    (hmap : Value.field? src (Text.ofString Reserved.map.word) = none)
    (hlog : c.logging.showAt = none) (hfit : DumpsFit src c m) :
    match (applyMap src c (.obj m)).outcome with
    | .error f => firstFault src (entriesLeaves c m) = some f
    | .ok R =>
      firstFault src (entriesLeaves c m) = none ∧
        List.Forall₂ (EntryMapped src c) (m.filter (keeps src c)) R ∧ ∀ e ∈ R, e.2.isSkip = false := by
  have h : EntriesReady src c m := .of_dumpsFit hm hlog hfit
  rw [applyMap_eq_mapValue hmap, outcome_mapValue_obj, if_pos hfit.1]
  cases hR : (mapEntries src c m).outcome with
  | error f => exact mapEntries_error_leafwise haddr hmap h hR
  | ok R => exact mapEntries_ok_leafwise haddr hmap h hR

section noSkip

variable {src : Fields} {c : Call} {m : Fields}
  (haddr : Value.field? src (Text.ofString Reserved.address.word) = none)
  (hmap : Value.field? src (Text.ofString Reserved.map.word) = none)
include haddr hmap

/-- A map of texts and maps whose maps can all log themselves, applied with the log dropped,
places no `SKIP` in its result. -/
theorem applyMap_ok_noSkip (hm : Value.entriesMap m = true) (hlog : c.logging.showAt = none)
    (hfit : DumpsFit src c m) {R : Fields} (hR : (applyMap src c (.obj m)).outcome = .ok R) :
    ∀ e ∈ R, e.2.isSkip = false := by
  rw [applyMap_eq_mapValue hmap, outcome_mapValue_obj, if_pos hfit.1] at hR
  exact (mapEntries_ok_leafwise haddr hmap (.of_dumpsFit hm hlog hfit) hR).2.2

/-- Mapping places no `SKIP` at any depth: neither a map of texts and maps whose maps can all log
themselves, applied with the log dropped, nor any map nested in it, applied in its own call,
gives a result with an entry `SKIP`. -/
theorem applyMap_noSkip_everyDepth (hm : Value.entriesMap m = true)
    (hlog : c.logging.showAt = none) (hfit : DumpsFit src c m) :
    ∀ p ∈ (c, Value.obj m) :: entriesSubMaps c m, ∀ R : Fields,
      (applyMap src p.1 p.2).outcome = .ok R → ∀ e ∈ R, e.2.isSkip = false := by
  intro p hp R hR
  rcases List.mem_cons.1 hp with rfl | hp
  · exact applyMap_ok_noSkip haddr hmap hm hlog hfit hR
  · obtain ⟨inner, hinner, hlog', hmi, hfiti⟩ := hfit.nested hm p hp
    rw [hinner] at hR
    exact applyMap_ok_noSkip haddr hmap hmi (hlog' ▸ hlog) hfiti hR

end noSkip

/-- A map with a text that resolves and a nested map holding `SKIP`. -/
def nestedSkipMap : Fields :=
  [(Text.ofString "a", .str (Text.ofString "STRING.x")),
    (Text.ofString "b", .obj [(Text.ofString "c", .str skipText)])]

/-- `nestedSkipMap` meets the hypotheses of applying a map leaf by leaf. -/
theorem applyMap_leafwise_nested :
    Value.entriesMap nestedSkipMap = true ∧ DumpsFit [] Call.quiet nestedSkipMap ∧
      match (applyMap [] Call.quiet (.obj nestedSkipMap)).outcome with
      | .error f => firstFault [] (entriesLeaves Call.quiet nestedSkipMap) = some f
      | .ok R =>
        firstFault [] (entriesLeaves Call.quiet nestedSkipMap) = none ∧
          List.Forall₂ (EntryMapped [] Call.quiet) (nestedSkipMap.filter (keeps [] Call.quiet)) R ∧
          ∀ e ∈ R, e.2.isSkip = false := by
  have hm : Value.entriesMap nestedSkipMap = true := by
    simp [nestedSkipMap, Value.entriesMap]
  have hfit : DumpsFit [] Call.quiet nestedSkipMap := by
    refine ⟨by decide, ?_⟩
    simp only [nestedSkipMap, entriesSubMaps, subMaps, List.nil_append, List.append_nil,
      List.mem_singleton, forall_eq]
    decide
  exact ⟨hm, hfit, applyMap_leafwise hm rfl rfl rfl hfit⟩

end Remap
