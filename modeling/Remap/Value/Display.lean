import Remap.Value
import Remap.Text.Quoted
import Remap.Decimal.Notation
/-!
The literal form of a value, as messages show it: objects in braces with `name: value` pairs,
arrays in brackets, both apart by a comma and a space; text as a quoted literal (`Text.quoted`);
`None`, `True` and `False`; floats by their shortest digits with `nan` and `inf` for the values
that are not finite. `Value.shown` is the text of a value in a message: text stands as it is, and
any other value in its literal form.
-/

namespace Remap

/-- Floats in the literal form: positional for decimal exponents from -4 to 15, two exponent
digits at least, `nan` and `inf` for values that are not finite. -/
def FloatFormat.literal : Decimal.FloatFormat := ⟨-4, 15, 2, "nan", "inf"⟩

namespace Value

mutual

/-- The literal form of a value. -/
def display : Value → String
  | .null => "None"
  | .bool true => "True"
  | .bool false => "False"
  | .int i => toString i
  | .float x => FloatFormat.literal.write x
  | .str s => Text.quoted s
  | .arr [] => "[]"
  | .arr (v :: vs) => "[" ++ v.display ++ displayItems vs ++ "]"
  | .obj [] => "\x7b\x7d"
  | .obj ((k, v) :: fs) =>
    "\x7b" ++ Text.quoted k ++ ": " ++ v.display ++ displayFields fs ++ "\x7d"

/-- The items after the first, each after a comma and a space. -/
def displayItems : List Value → String
  | [] => ""
  | v :: vs => ", " ++ v.display ++ displayItems vs

/-- The fields after the first, each after a comma and a space. -/
def displayFields : Fields → String
  | [] => ""
  | (k, v) :: fs => ", " ++ Text.quoted k ++ ": " ++ v.display ++ displayFields fs

end

/-- The text of a value in a message. -/
def shown : Value → Text
  | .str s => s
  | v => Text.ofString v.display

end Value

end Remap
