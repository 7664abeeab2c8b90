import Remap.Value
/-!
Why resolving an address or applying a map fails.

Each fault has a class (`ErrorClass`), a message, and for some a cause, the class of the
failure that led to it. A missing key is reported with the whole address that was looked up, and
is caused by the missing key itself; a literal that cannot be formed is reported with its address
and caused by what went wrong inside it (`LiteralFault`), or by the failure of the address it fell
back to.

Calls may nest only so deep (`Remap.Run`). A step that would go deeper fails with `tooDeep`.
Inside the forming of a literal, that failure is reported with the literal's address
(`LiteralFault.tooDeep`).
-/

namespace Remap

/-- The classes of failures, as callers tell them apart. -/
inductive ErrorClass where
  | key
  | type
  | runtime
  | attribute
  | index
  | value
  | decode
  | recursion
  deriving DecidableEq

/-- The name of an error class. -/
def ErrorClass.name : ErrorClass → String
  | .key => "KeyError"
  | .type => "TypeError"
  | .runtime => "RuntimeError"
  | .attribute => "AttributeError"
  | .index => "IndexError"
  | .value => "ValueError"
  | .decode => "JSONDecodeError"
  | .recursion => "RecursionError"

/-- Why a keyword literal cannot be formed from its payload. -/
inductive LiteralFault where
  /-- the keyword has no payload -/
  | missingPayload
  /-- the payload of an integer or decimal literal is no number -/
  | unreadable
  /-- the payload of a truth literal is no truth word -/
  | notTruthWord
  /-- forming the literal needs calls nested deeper than they may be -/
  | tooDeep
  deriving DecidableEq

/-- The class of a literal fault. -/
def LiteralFault.errorClass : LiteralFault → ErrorClass
  | .missingPayload => .index
  | .unreadable => .value
  | .notTruthWord => .runtime
  | .tooDeep => .recursion

/-- The names a source may not have, because they are taken by the operations themselves. -/
inductive Reserved where
  /-- the address being resolved -/
  | address
  /-- the map being applied -/
  | map
  deriving DecidableEq

/-- The operation that owns a reserved name, and the name. -/
def Reserved.owner : Reserved → String
  | .address => "_get_mapped_value"
  | .map => "map_dictionary"

/-- A reserved name as it is spelt. -/
def Reserved.word : Reserved → String
  | .address => "address"
  | .map => "map_dict"

/-- Why resolving or mapping fails. -/
inductive Fault where
  /-- a key on the path of this address is missing, and no alternative is left -/
  | missingKey (address : Text)
  /-- a key was applied to a value of this kind, which has no named fields -/
  | notIndexable (kind : Value.Kind)
  /-- the literal at this address cannot be formed -/
  | literal (address : Text) (reason : LiteralFault)
  /-- the literal at this address fell back to an address that failed -/
  | fallbackFailed (address : Text) (inner : Fault)
  /-- an address of this kind is not text -/
  | notText (kind : Value.Kind)
  /-- a map of this kind is not an object -/
  | notObject (kind : Value.Kind)
  /-- a source bears a reserved name -/
  | reserved (name : Reserved)
  /-- a step needs calls nested deeper than they may be -/
  | tooDeep
  deriving DecidableEq

namespace Fault

/-- The class of a fault. -/
def errorClass : Fault → ErrorClass
  | .missingKey _ => .key
  | .notIndexable _ => .type
  | .literal _ _ => .runtime
  | .fallbackFailed _ _ => .runtime
  | .notText _ => .attribute
  | .notObject _ => .attribute
  | .reserved _ => .type
  | .tooDeep => .recursion

/-- The class of the failure that led to a fault, if one did. -/
def cause? : Fault → Option ErrorClass
  | .missingKey _ => some .key
  | .literal _ reason => some reason.errorClass
  | .fallbackFailed _ inner => some inner.errorClass
  | _ => none

/-- The message of a fault. It holds the address of the fault, if it has one, as it is. -/
def message : Fault → Text
  | .missingKey a => Text.ofString "Error getting value from value dictionary: " ++ a
  | .notIndexable .str => Text.ofString "string indices must be integers, not 'str'"
  | .notIndexable .list => Text.ofString "list indices must be integers or slices, not str"
  | .notIndexable k => Text.ofString ("'" ++ k.name ++ "' object is not subscriptable")
  | .literal a _ => Text.ofString "Error getting mapped value: " ++ a
  | .fallbackFailed a _ => Text.ofString "Error getting mapped value: " ++ a
  | .notText k => Text.ofString ("'" ++ k.name ++ "' object has no attribute 'split'")
  | .notObject k => Text.ofString ("'" ++ k.name ++ "' object has no attribute 'items'")
  | .reserved r =>
    Text.ofString (r.owner ++ "() got multiple values for argument '" ++ r.word ++ "'")
  | .tooDeep => Text.ofString "maximum recursion depth exceeded"

end Fault

end Remap
