import Remap.Text.CodePoint
/-!
Values: the trees that maps, sources and results are made of. They are JSON trees that keep two
distinctions a plain number type would lose: an integer is never a float (`1` and `1.0` are
different values), and an object keeps its fields in the order they were written.

Text in values, names included, is `Text`, which keeps surrogate code points that have no
partner. An object is a list of fields. Readers never produce two fields of one name, so the first field
of a name is the only one, and `Value.field?` finds it.
-/

namespace Remap

/-- A JSON tree whose numbers are either integers of any size or binary64 floats, and whose
objects are ordered lists of named fields. -/
inductive Value where
  | null
  | bool (b : Bool)
  | int (i : Int)
  | float (x : Float)
  | str (s : Text)
  | arr (items : List Value)
  | obj (fields : List (Text × Value))
  deriving Inhabited

/-- The fields of an object, in order. -/
abbrev Fields := List (Text × Value)

namespace Value

-- ============================================================ kinds

/-- The kinds of values, as messages name them. -/
inductive Kind where
  | none
  | bool
  | int
  | float
  | str
  | list
  | dict
  deriving DecidableEq

/-- The name by which messages refer to a kind. -/
def Kind.name : Kind → String
  | .none => "NoneType"
  | .bool => "bool"
  | .int => "int"
  | .float => "float"
  | .str => "str"
  | .list => "list"
  | .dict => "dict"

/-- The kind of a value. -/
def kind : Value → Kind
  | .null => .none
  | .bool _ => .bool
  | .int _ => .int
  | .float _ => .float
  | .str _ => .str
  | .arr _ => .list
  | .obj _ => .dict

/-- Whether a value is the text that marks an entry to be left out. -/
def isSkip : Value → Bool
  | .str s => s == Text.ofString "SKIP"
  | _ => false

@[simp] theorem isSkip_str (s : Text) : (Value.str s).isSkip = (s == Text.ofString "SKIP") := rfl

-- ============================================================ fields

/-- The value bound to a name among fields: the first field of that name. -/
def field? (fs : Fields) (k : Text) : Option Value :=
  match fs with
  | [] => none
  | (n, v) :: rest => if n = k then some v else field? rest k

@[simp] theorem field?_nil (k : Text) : field? [] k = none := rfl

theorem field?_cons (n k : Text) (v : Value) (rest : Fields) :
    field? ((n, v) :: rest) k = if n = k then some v else field? rest k := rfl

/-- Sets a name among fields: an existing field keeps its place and takes the new value; a new
name goes last. This is how repeated names in a text resolve. -/
def setField (fs : Fields) (k : Text) (v : Value) : Fields :=
  match fs with
  | [] => [(k, v)]
  | (n, w) :: rest => if n = k then (n, v) :: rest else (n, w) :: setField rest k v

theorem field?_setField_self (fs : Fields) (k : Text) (v : Value) :
    field? (setField fs k v) k = some v := by
  induction fs with
  | nil => simp [setField, field?]
  | cons p rest ih =>
    obtain ⟨n, w⟩ := p
    by_cases h : n = k
    · simp [setField, field?, h]
    · simp [setField, field?, h, ih]

-- ============================================================ nesting

mutual

/-- How many arrays and objects stand inside one another on the deepest way down a value. -/
def nesting : Value → Nat
  | .arr vs => 1 + itemsNesting vs
  | .obj fs => 1 + fieldsNesting fs
  | _ => 0

/-- The deepest nesting among items. -/
def itemsNesting : List Value → Nat
  | [] => 0
  | v :: vs => max v.nesting (itemsNesting vs)

/-- The deepest nesting among the values of fields. -/
def fieldsNesting : Fields → Nat
  | [] => 0
  | (_, v) :: fs => max v.nesting (fieldsNesting fs)

end

mutual

/-- How deep writing a value in literal form goes: one level for each array or object on the way
down, and one for the value at the bottom that is neither. -/
def shownDepth : Value → Nat
  | .arr vs => 1 + itemsShownDepth vs
  | .obj fs => 1 + fieldsShownDepth fs
  | _ => 1

/-- The deepest literal form among items. -/
def itemsShownDepth : List Value → Nat
  | [] => 0
  | v :: vs => max v.shownDepth (itemsShownDepth vs)

/-- The deepest literal form among the values of fields. -/
def fieldsShownDepth : Fields → Nat
  | [] => 0
  | (_, v) :: fs => max v.shownDepth (fieldsShownDepth fs)

end

end Value

end Remap
