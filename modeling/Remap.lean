import Remap.Text.CodePoint
import Remap.Value
import Remap.Value.Display
import Remap.Text.Split
import Remap.Text.Digit
import Remap.Text.Printable
import Remap.Text.Quoted
import Remap.Decimal.Shortest
import Remap.Decimal.Notation
import Remap.Decimal.Reading
import Remap.Json.Reader
import Remap.Json.Writer
import Remap.Numeral
import Remap.Address
import Remap.Fault
import Remap.Narrated
import Remap.Note
import Remap.Run
import Remap.Resolve
import Remap.MapTree
import Remap.Log
import Remap.Demo.Sample
import Remap.Demo
import Remap.Main
import Remap.Proofs.Marks
import Remap.Proofs.Outcome
import Remap.Proofs.Fallback
import Remap.Proofs.Maps
import Remap.Proofs.Sources
import Remap.Proofs.Mirror
import Remap.Proofs.Lookup
import Remap.Proofs.Faults
import Remap.Proofs.Literals
import Remap.Proofs.Items
import Remap.Proofs.Nesting
