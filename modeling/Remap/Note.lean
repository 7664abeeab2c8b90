import Remap.Value
import Remap.Address
/-!
Notes: the steps of mapping and resolving, as they happen. The log is written from them
(`Remap.Log`); results never depend on them. The last two kinds are made only right before a
failure, so no log shows them; they count among the steps that may go too deep (`Remap.Run`).
-/

namespace Remap

/-- One step of mapping or resolving. -/
inductive Note where
  /-- a map is applied to sources -/
  | beginMap (map : Value) (sources : Fields)
  /-- an entry of a map is taken up -/
  | entry (key : Text) (address : Value)
  /-- an entry is left out -/
  | skipKey (key : Text)
  /-- an entry holds a nested map -/
  | nested (key : Text)
  /-- an address, text or not, is resolved -/
  | resolving (address : Value)
  /-- an address resolves to nothing -/
  | nullValue
  /-- a literal is formed from the segments of its address -/
  | literal (keyword : Keyword) (segments : List Text)
  /-- an integer literal's payload is unreadable, and its address falls back -/
  | integerFallback (payload target : Text)
  /-- a decimal literal's payload is unreadable, and its address falls back -/
  | decimalFallback (payload target : Text)
  /-- a key on a path is missing, and the address after `.OR.` is tried -/
  | pathFallback (path target : Text)
  /-- a key is applied on a path -/
  | step (key : Text)
  /-- a literal's payload cannot be read as the keyword asks -/
  | literalFailed (keyword : Keyword) (payload : Text)
  /-- a key on the path of an address is missing, and no alternative is left -/
  | lookupFailed (address : Text)

end Remap
