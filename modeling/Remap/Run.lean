import Remap.Narrated
import Remap.Note
import Remap.Fault
/-!
The mapper's computations, and the stack their calls take.

A `Run` narrates its steps as notes and ends in a result or a fault. The runtime that runs the
mapper counts the calls standing open, and also the arrays and objects that its writers of JSON
text and of literal forms stand inside, in one count: at most `stackLimit` units may be in use
at once.

A call of the mapper (`Call`) stands at some depth, and each call it makes stands one deeper.
Every step it notes is logged, and logging takes units beyond the call (`Note.units`): a fixed
number for the log call itself, more when a line shows a value in literal form, and, when a map
is taken up, the one-line JSON text of the map and of the sources. Warnings and errors (a
fallback taken, a literal or a lookup that fails) may take more than the other steps: where the
log is dropped, the runtime's handler of last resort still writes them out. A step that would go
past the limit fails with `Fault.tooDeep` (`Run.noteAt`), at the point where it happens, before
anything after it.

Each call of the mapper is made by one that has just logged, and a log reaches deeper than a
call does, so checking the notes is enough.
-/

namespace Remap

/-- A computation of the mapper: notes on its steps, and a result or a fault. -/
abbrev Run := Narrated Note Fault

/-- The most units of the stack that may be in use at once. -/
def stackLimit : Nat := 1000

/-- The units that writing one-line JSON text takes beyond the call, besides one for each array
or object it stands inside. -/
def jsonUnits : Nat := 3

/-- How a run logs its steps. -/
structure Logging where
  /-- units a log call takes beyond the call that makes it -/
  units : Nat
  /-- units a warning or an error takes beyond the call that makes it -/
  warnUnits : Nat
  /-- a warning or an error does all that another log call does, and may write its line out -/
  units_le_warnUnits : units ≤ warnUnits
  /-- for lines that are written out, the units beyond the call at which a value shown in
  literal form is written, level by level (`Value.shownDepth`); none when lines are dropped
  unwritten -/
  showAt : Option Nat

/-- A call of the mapper: how deep it stands, and how its run logs. -/
structure Call where
  depth : Nat
  logging : Logging

/-- The call that a call makes. -/
def Call.inner (c : Call) : Call := { c with depth := c.depth + 1 }

@[simp] theorem Call.depth_inner (c : Call) : c.inner.depth = c.depth + 1 := rfl

@[simp] theorem Call.logging_inner (c : Call) : c.inner.logging = c.logging := rfl

/-- How a host runs the mapper when it drops the log: the first call stands four deep, and a
log call takes eight units, its line never written out, except for a warning or an error, which
is written out in ten. -/
def Call.quiet : Call := ⟨4, ⟨8, 10, by decide, none⟩⟩

/-- The units that showing a value in a log line takes, if lines are written out and the value
is not text, which stands as it is. -/
def Logging.shown (lg : Logging) : Value → Nat
  | .str _ => lg.units
  | v =>
    match lg.showAt with
    | some base => max lg.units (base + v.shownDepth)
    | none => lg.units

/-- The units that noting a step takes beyond the call that notes it. -/
def Note.units (lg : Logging) : Note → Nat
  | .beginMap m src => max lg.units (jsonUnits + max m.nesting (Value.obj src).nesting)
  | .entry _ a => lg.shown a
  | .resolving a => lg.shown a
  | .integerFallback .. | .decimalFallback .. | .pathFallback .. => lg.warnUnits
  | .literalFailed .. | .lookupFailed _ => lg.warnUnits
  | _ => lg.units

namespace Run

/-- Whether a call can note a step without going past the limit. -/
def fits (c : Call) (n : Note) : Bool := c.depth + n.units c.logging ≤ stackLimit

/-- Notes a step of a call, or fails with `f` when noting it goes past the limit. -/
def noteOr (f : Fault) (c : Call) (n : Note) : Run Unit :=
  if fits c n then Narrated.note n else Narrated.fail f

/-- Notes a step of a call; past the limit, the step fails with `Fault.tooDeep`. -/
def noteAt (c : Call) (n : Note) : Run Unit := noteOr .tooDeep c n

@[simp] theorem outcome_noteOr (f : Fault) (c : Call) (n : Note) :
    (noteOr f c n).outcome = if fits c n then .ok () else .error f := by
  unfold noteOr
  split <;> rfl

end Run

end Remap
