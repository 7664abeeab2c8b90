import Remap.MapTree
import Remap.Log
import Remap.Json.Reader
import Remap.Demo.Sample
/-!
The demo: read a map and sources from two JSON texts, apply the map, and print the result.

The texts are read as files are, with each carriage return, alone or before a line feed, read
as one line feed. The sources must be an object. The printed text is a banner of fifty stars on
its own line, then the result as indented JSON (`Json.Layout.indented`) and a line break. The log
is the text of the notes of the whole run (`logText`). A run that fails prints nothing.

The script stands `scriptDepth` deep in the stack of the runtime that runs it (`Remap.Run`), and
applies the map by a call it makes, whose log lines are written out. Reading a text takes one call
and the units of one-line JSON, so arrays and objects may stand at most `readLimit` deep in it.
Writing the indented result takes two units beyond the script, and then `printWeight`. Past the
limit, the demo fails with a recursion error.
-/

namespace Remap.Demo

/-- What the demo writes: the printed text and the log. -/
structure Output where
  stdout : String
  log : Text

/-- Why the demo stops. -/
inductive Failure where
  /-- a text cannot be read as JSON -/
  | unreadable (e : Json.ReadError)
  /-- the sources are a value of this kind, not an object -/
  | notMapping (kind : Value.Kind)
  /-- applying the map fails -/
  | fault (f : Fault)

/-- The class of a failure. -/
def Failure.errorClass : Failure → ErrorClass
  | .unreadable (.malformed ..) => .decode
  | .unreadable (.longInteger _) => .value
  | .unreadable .tooDeep => .recursion
  | .notMapping _ => .type
  | .fault f => f.errorClass

/-- The class of the failure that led to this one, if one did. -/
def Failure.cause? : Failure → Option ErrorClass
  | .fault f => f.cause?
  | _ => none

/-- The message of a failure. -/
def Failure.message : Failure → Text
  | .unreadable e => Text.ofString e.message
  | .notMapping k =>
    Text.ofString ("mapping.map_dictionary() argument after ** must be a mapping, not " ++ k.name)
  | .fault f => f.message

/-- A text as a file reads it: a carriage return before a line feed is dropped, and one alone
becomes a line feed. -/
def fileLines : List Char → List Char
  | '\r' :: '\n' :: rest => '\n' :: fileLines rest
  | '\r' :: rest => '\n' :: fileLines rest
  | c :: rest => c :: fileLines rest
  | [] => []

/-- How deep the script stands in the runtime's stack. -/
def scriptDepth : Nat := 6

/-- How deep arrays and objects may stand in a text the script reads. -/
def readLimit : Nat := stackLimit - (scriptDepth + 1 + jsonUnits)

/-- Reads a text as a file holding JSON. -/
def readFile (text : String) : Except Failure Value :=
  (Json.readWithin readLimit (String.ofList (fileLines text.toList))).mapError .unreadable

/-- How the demo logs: every line is written out, and a log call takes ten units, a warning or
an error too; a value shown in a line is written from eight units on. -/
def logging : Logging := ⟨10, 10, Nat.le_refl 10, some 8⟩

/-- The call that applies the map. -/
def mapCall : Call := ⟨scriptDepth + 1, logging⟩

/-- The banner printed before the result. -/
def banner : String := String.ofList (List.replicate 50 '*')

mutual

/-- The units that writing a value as indented text takes: one for each array or object on the
way down, and at the bottom two for a float and one for any other value. -/
def printWeight : Value → Nat
  | .float _ => 2
  | .arr vs => 1 + itemsWeight vs
  | .obj fs => 1 + fieldsWeight fs
  | _ => 1

/-- The most units that writing one of the items takes. -/
def itemsWeight : List Value → Nat
  | [] => 0
  | v :: vs => max (printWeight v) (itemsWeight vs)

/-- The most units that writing one of the fields' values takes. -/
def fieldsWeight : Fields → Nat
  | [] => 0
  | (_, v) :: fs => max (printWeight v) (fieldsWeight fs)

end

/-- The units that the indented writer takes beyond the script before the result's own. -/
def printUnits : Nat := 2

/-- Runs the demo on a map text and a sources text. -/
def run (mapText sourcesText : String) : Except Failure Output := do
  let m ← readFile mapText
  let v ← readFile sourcesText
  let src ← match v with
    | .obj fs => pure fs
    | v => throw (.notMapping v.kind)
  let r := applyMap src mapCall m
  match r.outcome with
  | .ok fields =>
    if stackLimit < scriptDepth + printUnits + printWeight (.obj fields) then
      throw (.fault .tooDeep)
    else
      pure ⟨banner ++ "\n" ++ Json.Layout.indented.render (.obj fields) ++ "\n", logText r.notes⟩
  | .error f => throw (.fault f)

/-- Runs the demo, with the samples for the texts not given. -/
def runWith (mapText sourcesText : Option String) : Except Failure Output :=
  run (mapText.getD sampleMap) (sourcesText.getD sampleSources)

end Remap.Demo
