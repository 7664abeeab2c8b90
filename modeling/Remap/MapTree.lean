import Remap.Resolve
import Remap.Value.Display
/-!
Applying a map to sources.

A map is an object whose fields are entries: a key and what it maps to. `applyMap` builds the
result object entry by entry, in the map's order:

* an entry whose address is the text `SKIP` is left out;
* an entry holding a nested map gets the nested map applied to the same sources;
* any other entry gets its address resolved (`resolveEntry`), and is left out if that gives the
  text `SKIP`.

Sources named `map_dict` or `address` collide with the operations' own inputs: mapping with the
first fails before anything else, and resolving any entry with the second fails when the entry
is resolved. An address that is not text fails, and so does a map that is not an object.

Each nested map is applied by a call that the call applying the map holding it makes, and each
address is resolved by a call that its map's call makes (`Remap.Run`).
-/

namespace Remap

/-- Resolves the address of one entry in the call `c`: it must be text, and no source may take
the name of the address itself. -/
def resolveEntry (src : Fields) (c : Call) (address : Value) : Run Value :=
  if (Value.field? src (Text.ofString Reserved.address.word)).isSome then
    Narrated.fail (.reserved .address)
  else
    match address with
    | .str a => resolve src c a
    | v => do
      Run.noteAt c (.resolving v)
      Narrated.fail (.notText v.kind)

mutual

/-- Applies a map, given as any value, to sources, in the call `c`. -/
def mapValue (src : Fields) (c : Call) (m : Value) : Run Fields := do
  Run.noteAt c (.beginMap m src)
  match m with
  | .obj entries => mapEntries src c entries
  | v => Narrated.fail (.notObject v.kind)

/-- Builds the result of a map's entries, in order, in the call `c`. -/
def mapEntries (src : Fields) (c : Call) : Fields → Run Fields
  | [] => pure []
  | (k, a) :: rest => do
    Run.noteAt c (.entry k a)
    if a.isSkip then
      Run.noteAt c (.skipKey k)
      mapEntries src c rest
    else
      match a with
      | .obj inner =>
        Run.noteAt c (.nested k)
        let r ← mapValue src c.inner (.obj inner)
        let rs ← mapEntries src c rest
        pure ((k, .obj r) :: rs)
      | a =>
        let r ← resolveEntry src c.inner a
        if r.isSkip then
          Run.noteAt c (.skipKey k)
          mapEntries src c rest
        else
          let rs ← mapEntries src c rest
          pure ((k, r) :: rs)

end

/-- Applies a map to sources in the call `c`; a source may not take the name of the map itself. -/
def applyMap (src : Fields) (c : Call) (m : Value) : Run Fields :=
  if (Value.field? src (Text.ofString Reserved.map.word)).isSome then
    Narrated.fail (.reserved .map)
  else mapValue src c m

end Remap
