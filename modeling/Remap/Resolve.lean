import Remap.Address
import Remap.Run
import Remap.Numeral
/-!
Resolving an address against sources.

`resolve src d a` looks at the first segment of `a`:

* `NULL` gives null and `SKIP` gives the text `SKIP`;
* `STRING`, `LIST`, `BOOL`, `INT` and `FLOAT` form a literal from the segments after it, with no
  look-up in the sources. `STRING.t` is the text `t` (the second segment only), `LIST.a,b` the
  list of texts cut at commas, `BOOL.true` a truth value, `INT.n` an integer, `FLOAT.w.f` the
  decimal `w.f`. An unreadable integer (with four or more segments) or decimal (with three or
  more) falls back to the segments after its first segment `OR`, resolved with no sources;
* any other first segment makes the address a path: the keys before the first `.OR.` are
  looked up, the first among the sources and each next one in the value found so far. If a key is
  missing, the address after the `.OR.` is resolved instead; if there is none, resolving fails.
  A key applied to a value without fields fails at once, alternatives or not.

`c` is the call that resolves (`Remap.Run`). A literal is formed, and a path looked up, by a call
it makes (`Call.inner`), and a fallback is resolved by a call made by that one. A literal that
goes too deep fails with its address (`LiteralFault.tooDeep`).

Each fallback resolves a shorter address, so `resolve` is defined by well-founded recursion on
the length of the address.
-/

namespace Remap

/-- The truth value a word spells, if it spells one. -/
def truthOf? (t : Text) : Option Bool :=
  match Text.toString? t with
  | some "True" | some "true" | some "TRUE" => some true
  | some "False" | some "false" | some "FALSE" => some false
  | _ => none

/-- The items of a list literal: the payload cut at its commas, after each comma followed by a
space, and then each space followed by a comma, has become a single comma. -/
def listItems (p : Text) : List Text :=
  let comma : CodePoint := .scalar ','
  let space : CodePoint := .scalar ' '
  let cs := Text.replaceAll [comma, space] [comma] p
  let cs := Text.replaceAll [space, comma] [comma] cs
  Text.splitOn comma cs

/-- The string of a nonempty text whose code points all count as digits. -/
def digitText? (t : Text) : Option String :=
  (Text.toString? t).filter Numeral.isDigitText

/-- The integer a payload writes, if it writes one. -/
def integerOf? (p : Text) : Option Int := (Text.toString? p).bind Numeral.readInt?

/-- The decimal of a `FLOAT` payload: the whole part, and the fraction when the segment after it
counts as digits too. -/
def decimalOf? : List Text → Option Float
  | w :: rest =>
    match digitText? w with
    | none => none
    | some w =>
      match rest with
      | f :: _ =>
        match digitText? f with
        | some f => Numeral.readDecimal? w f
        | none => Numeral.readDecimal? w ""
      | [] => Numeral.readDecimal? w ""
  | [] => none

/-- Follows keys down from a value, noting each key before it is applied, in the call `c`.
A missing key gives nothing; a key applied to a value without fields fails. -/
def descend (c : Call) : Value → List Text → Run (Option Value)
  | v, [] => pure (some v)
  | v, k :: ks => do
    Run.noteAt c (.step k)
    match v with
    | .obj fs =>
      match Value.field? fs k with
      | some w => descend c w ks
      | none => pure none
    | v => Narrated.fail (.notIndexable v.kind)

/-- Looks up a path of keys in the call `c`: the first key among the sources, the others below
it. -/
def findPath (src : Fields) (c : Call) (path : Text) : Run (Option Value) :=
  match Address.segments path with
  | [] => pure none
  | k :: ks =>
    match Value.field? src k with
    | none => pure none
    | some v => descend c v ks

set_option linter.unusedVariables false in
/-- The value an address resolves to, in the call `c`. -/
def resolve (src : Fields) (c : Call) (address : Text) : Run Value := do
  Run.noteAt c (.resolving (.str address))
  match hs : Address.segments address with
  | [] => Narrated.fail (.missingKey address)
  | head :: payload =>
    -- a literal is formed one call deeper, and a call too deep there fails the literal
    let say := Run.noteOr (.literal address .tooDeep) c.inner
    match Keyword.ofSegment? head with
    | some .null => do
      Run.noteAt c .nullValue
      pure .null
    | some .skip => pure (.str (Text.ofString "SKIP"))
    | some .text => do
      say (.literal .text (head :: payload))
      match payload with
      | p :: _ => pure (.str p)
      | [] => Narrated.fail (.literal address .missingPayload)
    | some .list => do
      say (.literal .list (head :: payload))
      match payload with
      | p :: _ => pure (.arr ((listItems p).map .str))
      | [] => pure (.arr [])
    | some .truth => do
      say (.literal .truth (head :: payload))
      match payload with
      | p :: _ =>
        match truthOf? p with
        | some b => pure (.bool b)
        | none => do
          say (.literalFailed .truth p)
          Narrated.fail (.literal address .notTruthWord)
      | [] => Narrated.fail (.literal address .missingPayload)
    | some .integer => do
      say (.literal .integer (head :: payload))
      match payload with
      | [] => Narrated.fail (.literal address .missingPayload)
      | p :: _ =>
        match integerOf? p with
        | some n => pure (.int n)
        | none =>
          match hf : Address.fallback? 3 payload with
          | some t => do
            say (.integerFallback p (Address.joinDots t))
            (resolve [] c.inner.inner (Address.joinDots t)).mapFailure (.fallbackFailed address)
          | none => do
            say (.literalFailed .integer p)
            Narrated.fail (.literal address .unreadable)
    | some .decimal => do
      say (.literal .decimal (head :: payload))
      match payload with
      | [] => Narrated.fail (.literal address .missingPayload)
      | p :: _ =>
        match decimalOf? payload with
        | some x => pure (.float x)
        | none =>
          match hf : Address.fallback? 2 payload with
          | some t => do
            say (.decimalFallback p (Address.joinDots t))
            (resolve [] c.inner.inner (Address.joinDots t)).mapFailure (.fallbackFailed address)
          | none => do
            say (.literalFailed .decimal p)
            Narrated.fail (.literal address .unreadable)
    | none =>
      -- a path is looked up one call deeper
      match ha : Address.firstAlternative address with
      | (path, alt) => do
        match ← findPath src c.inner path with
        | some v => pure v
        | none =>
          match hr : alt with
          | some r => do
            Run.noteAt c.inner (.pathFallback path r)
            resolve src c.inner.inner r
          | none => do
            Run.noteAt c.inner (.lookupFailed address)
            Narrated.fail (.missingKey address)
termination_by address.length
decreasing_by
  · exact Address.length_joinDots_lt hs (Address.after_of_fallback? hf)
  · exact Address.length_joinDots_lt hs (Address.after_of_fallback? hf)
  · subst hr
    exact Address.length_alternative_lt (by rw [ha])

end Remap
