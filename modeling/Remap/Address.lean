import Remap.Text.Split
import Remap.Text.CodePoint
/-!
Addresses: the texts at the leaves of a map, saying where each result comes from.

An address is read two ways. Cut at its dots (`segments`), its first segment may be a keyword
(`Keyword`) and the segments after it are the keyword's payload. Cut at its first `.OR.`
(`firstAlternative`), it is a path of keys to look up, and, after the mark, the address to try
when a key on that path is missing.

An integer or decimal literal that cannot be read falls back to the segments after its first
segment `OR` (`fallback?`), joined by dots again. Both ways of falling back lead to a
shorter address (`length_alternative_lt`, `length_joinDots_lt`), which is why resolution ends.
-/

namespace Remap

/-- The words that make an address a literal rather than a path. -/
inductive Keyword where
  /-- `NULL`: nothing -/
  | null
  /-- `SKIP`: leave the entry out -/
  | skip
  /-- `STRING.text` -/
  | text
  /-- `INT.n` -/
  | integer
  /-- `FLOAT.whole.fraction` -/
  | decimal
  /-- `LIST.a,b,c` -/
  | list
  /-- `BOOL.true` -/
  | truth
  deriving DecidableEq

/-- The keyword a word spells, if it spells one. -/
def Keyword.ofWord? : String → Option Keyword
  | "NULL" => some .null
  | "SKIP" => some .skip
  | "STRING" => some .text
  | "INT" => some .integer
  | "FLOAT" => some .decimal
  | "LIST" => some .list
  | "BOOL" => some .truth
  | _ => none

/-- The keyword a segment spells, if it spells one. -/
def Keyword.ofSegment? (s : Text) : Option Keyword := (Text.toString? s).bind Keyword.ofWord?

namespace Address

-- ============================================================ segments

/-- The dot between segments. -/
def dot : CodePoint := .scalar '.'

/-- The segments of an address: the texts between its dots, empty ones included. -/
def segments (a : Text) : List Text := Text.splitOn dot a

/-- Segments joined by dots. -/
def joinDots (segs : List Text) : Text := Text.joinWith dot segs

theorem joinDots_segments (a : Text) : joinDots (segments a) = a :=
  Text.joinWith_splitOn dot a

theorem segments_ne_nil (a : Text) : segments a ≠ [] := Text.splitOn_ne_nil dot a

/-- The segments after the first one equal to a word, if one is. -/
def after (w : Text) : List Text → Option (List Text)
  | [] => none
  | s :: rest => if s = w then some rest else after w rest

theorem after_eq_drop {w : Text} : ∀ {l t : List Text}, after w l = some t →
    ∃ n, t = l.drop (n + 1)
  | [], _, h => by simp [after] at h
  | s :: rest, t, h => by
    unfold after at h
    split at h
    · simp only [Option.some.injEq] at h
      exact ⟨0, by simp [h]⟩
    · obtain ⟨n, hn⟩ := after_eq_drop h
      exact ⟨n + 1, by simp [hn]⟩

/-- The segment after which an unreadable literal's fallback address begins. -/
def orWord : Text := [.scalar 'O', .scalar 'R']

/-- Where an unreadable literal falls back to: the segments of its payload after the first
segment `OR`, provided the payload has at least `least` segments. -/
def fallback? (least : Nat) (payload : List Text) : Option (List Text) :=
  if least ≤ payload.length then after orWord payload else none

theorem after_of_fallback? {least : Nat} {payload t : List Text}
    (h : fallback? least payload = some t) : after orWord payload = some t := by
  unfold fallback? at h
  split at h
  · exact h
  · simp at h

/-- The segments after a word among the payload, joined, are shorter than the address. -/
theorem length_joinDots_lt {a p w : Text} {payload t : List Text}
    (hs : segments a = p :: payload) (ht : after w payload = some t) :
    (joinDots t).length < a.length := by
  obtain ⟨n, rfl⟩ := after_eq_drop ht
  cases payload with
  | nil => simp [after] at ht
  | cons q ps =>
    have key := Text.length_joinWith_drop_succ_lt dot (n + 1) p q ps
    have ha : a = joinDots (segments a) := (joinDots_segments a).symm
    rw [hs] at ha
    rw [ha]
    exact key

-- ============================================================ alternatives

/-- The mark between an address and the one tried when it fails. -/
def orMark : Text := [.scalar '.', .scalar 'O', .scalar 'R', .scalar '.']

/-- An address cut at its first `.OR.`: the path before it, and the address after it if the
mark occurs. -/
def firstAlternative (a : Text) : Text × Option Text :=
  match Text.breakOn orMark a with
  | none => (a, none)
  | some (b, rest) => (b, some rest)

/-- The address after the first `.OR.` is shorter. -/
theorem length_alternative_lt {a r : Text} (h : (firstAlternative a).2 = some r) :
    r.length < a.length := by
  unfold firstAlternative at h
  split at h
  · simp at h
  · rename_i b rest hb
    simp only [Option.some.injEq] at h
    subst h
    exact Text.length_lt_of_breakOn hb (by simp [orMark])

end Address

end Remap
