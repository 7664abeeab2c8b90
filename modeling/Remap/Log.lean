import Remap.Note
import Remap.Value.Display
import Remap.Json.Writer
/-!
The log: one line per note, in the order the notes were made. Maps and sources are written as
one-line JSON text (`Json.Layout.line`), addresses of entries by `Value.shown`, and the segments
of a literal's address as a list in literal form (`Value.display`).
-/

namespace Remap

/-- The noun of a keyword in the log. -/
def Keyword.noun : Keyword → String
  | .null => "Null"
  | .skip => "Skip"
  | .text => "String"
  | .integer => "Integer"
  | .decimal => "Float"
  | .list => "List"
  | .truth => "Boolean"

/-- The lines a note is logged as. Text from maps and sources stands in them as it is. -/
def Note.lines : Note → List Text
  | .beginMap m src =>
    [Text.ofString "Beginning Mapping of Dictionary",
      Text.ofString ("Map: " ++ Json.Layout.line.render m),
      Text.ofString ("Value Dictionaries: " ++ Json.Layout.line.render (.obj src))]
  | .entry k a => [Text.ofString "Mapping Key: " ++ k ++ Text.ofString " to value: " ++ a.shown]
  | .skipKey k => [Text.ofString "Skipping Key: " ++ k]
  | .nested k => [Text.ofString "Value is a dictionary, mapping dictionary to Key: " ++ k]
  | .resolving a => [Text.ofString "Getting Mapped Value for: " ++ a.shown]
  | .nullValue => [Text.ofString "Value is NULL, returning None"]
  | .literal kw segs =>
    [Text.ofString ("Mapping Static " ++ kw.noun ++ ": " ++ (Value.arr (segs.map .str)).display)]
  | .integerFallback p t =>
    [Text.ofString "Failed to Map Integer: " ++ p ++ Text.ofString ", using OR clause: " ++ t]
  | .decimalFallback p t =>
    [Text.ofString "Failed to Map Float: " ++ p ++ Text.ofString ", using OR clause: " ++ t]
  | .pathFallback path t =>
    [Text.ofString "Error getting value from value dictionary: " ++ path
      ++ Text.ofString " Using Value from OR: " ++ t]
  | .step k => [Text.ofString "Getting Value for Key: " ++ k]
  | .literalFailed kw p =>
    [Text.ofString "Error converting value: " ++ p ++ Text.ofString (" to " ++ kw.noun.toLower)]
  | .lookupFailed a => [Text.ofString "Failed to map value from value dictionary: " ++ a]

/-- The text of a log: each line followed by a line break. -/
def logText (notes : List Note) : Text :=
  (notes.flatMap Note.lines).flatMap (· ++ [.scalar '\n'])

end Remap
