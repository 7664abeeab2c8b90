import Remap.Value
import Remap.Decimal.Reading
/-!
Reading JSON text into a `Value`.

The grammar is JSON's, with three more words: `NaN`, `Infinity` and `-Infinity` read as floats.
A number with a fraction or an exponent is a float, rounded once to binary64; any other number is
an integer of any size, but one of more than 4300 digits is refused. A repeated field name keeps
the place of its first occurrence and takes the value of its last. Blanks are space, tab, line
feed and carriage return.

When a text cannot be read, `ReadError` says what was expected and where, counting characters from
zero, and lines and columns from one. Where a value was expected, the position is that of the
character found instead. An unterminated string is reported at its opening quote, a bad escape at
its backslash, and a bad `\u` escape at its `u`.

An escape `\u` of a surrogate half joins the escape right after it when that is the other half.
A half that stays alone reads as its surrogate code point (`CodePoint.surrogate`).

`readWithin n` lets arrays and objects stand at most `n` deep inside one another; the one that
would stand deeper is refused (`ReadError.tooDeep`) when the reader comes to it. `read` sets no
such bound.
-/

namespace Remap.Json

/-- What the reader found where it expected something else. -/
inductive Flaw where
  | expectingValue
  | expectingName
  | expectingColon
  | expectingComma
  | unterminatedString
  | controlCharacter
  | badEscape
  | badUnicodeEscape
  | extraData
  | byteOrderMark
  deriving DecidableEq

/-- The words that describe a flaw in messages. -/
def Flaw.text : Flaw → String
  | .expectingValue => "Expecting value"
  | .expectingName => "Expecting property name enclosed in double quotes"
  | .expectingColon => "Expecting ':' delimiter"
  | .expectingComma => "Expecting ',' delimiter"
  | .unterminatedString => "Unterminated string starting at"
  | .controlCharacter => "Invalid control character at"
  | .badEscape => "Invalid \\escape"
  | .badUnicodeEscape => "Invalid \\uXXXX escape"
  | .extraData => "Extra data"
  | .byteOrderMark => "Unexpected UTF-8 BOM (decode using utf-8-sig)"

/-- The most digits an integer in a text may have. -/
def maxIntegerDigits : Nat := 4300

/-- Why a text could not be read. -/
inductive ReadError where
  /-- the text breaks the grammar at a character, given by index, line and column -/
  | malformed (flaw : Flaw) (pos line column : Nat)
  /-- an integer has more digits than `maxIntegerDigits` -/
  | longInteger (digits : Nat)
  /-- an array or object would stand deeper than the reader allows -/
  | tooDeep
  deriving DecidableEq

/-- The message of a read error. -/
def ReadError.message : ReadError → String
  | .malformed flaw pos line column =>
    flaw.text ++ ": line " ++ toString line ++ " column " ++ toString column ++ " (char "
      ++ toString pos ++ ")"
  | .longInteger n =>
    "Exceeds the limit (" ++ toString maxIntegerDigits
      ++ " digits) for integer string conversion: value has " ++ toString n
      ++ " digits; use sys.set_int_max_str_digits() to increase the limit"
  | .tooDeep => "maximum recursion depth exceeded"

/-- A failure while scanning, before its line and column are known. -/
inductive Stop where
  | flaw (f : Flaw) (pos : Nat)
  | longInteger (digits : Nat)
  | tooDeep

-- ============================================================ characters

/-- The blanks allowed between tokens. -/
def isBlank (c : Char) : Bool := c == ' ' || c == '\t' || c == '\n' || c == '\r'

/-- Drops leading blanks. -/
def skipBlanks (s : List Char) : List Char := s.dropWhile isBlank

/-- Whether a character is an ASCII digit. -/
def isDigit (c : Char) : Bool := '0' ≤ c && c ≤ '9'

/-- The value of a hexadecimal digit of either case. -/
def hexValue? (c : Char) : Option Nat :=
  if '0' ≤ c ∧ c ≤ '9' then some (c.toNat - '0'.toNat)
  else if 'a' ≤ c ∧ c ≤ 'f' then some (c.toNat - 'a'.toNat + 10)
  else if 'A' ≤ c ∧ c ≤ 'F' then some (c.toNat - 'A'.toNat + 10)
  else none

/-- The value of four hexadecimal digits. -/
def hexQuad? (a b c d : Char) : Option Nat := do
  let a ← hexValue? a
  let b ← hexValue? b
  let c ← hexValue? c
  let d ← hexValue? d
  pure (((a * 16 + b) * 16 + c) * 16 + d)

/-- The character an escape letter stands for, for the escapes other than `\u`. -/
def simpleEscape? : Char → Option Char
  | '"' => some '"'
  | '\\' => some '\\'
  | '/' => some '/'
  | 'b' => some '\x08'
  | 'f' => some '\x0c'
  | 'n' => some '\n'
  | 'r' => some '\r'
  | 't' => some '\t'
  | _ => none

/-- Whether a code point is the first half of a surrogate pair. -/
def isHighSurrogate (n : Nat) : Bool := 0xD800 ≤ n && n ≤ 0xDBFF

/-- Whether a code point is the second half of a surrogate pair. -/
def isLowSurrogate (n : Nat) : Bool := 0xDC00 ≤ n && n ≤ 0xDFFF

/-- The character of a surrogate pair. -/
def pairChar (hi lo : Nat) : Char :=
  Char.ofNat (0x10000 + (hi - 0xD800) * 0x400 + (lo - 0xDC00))

-- ============================================================ strings

/-- Scans the body of a string after its opening quote, which stands at `begin`. The code points
read so far are kept in reverse. -/
def scanString (total begin : Nat) (acc : Text) :
    List Char → Except Stop (Text × List Char)
  | [] => .error (.flaw .unterminatedString begin)
  | '"' :: rest => .ok (acc.reverse, rest)
  | ['\\'] => .error (.flaw .unterminatedString begin)
  | '\\' :: 'u' :: a :: b :: c :: d :: '\\' :: 'u' :: e :: f :: g :: h :: more =>
    -- a first half with a whole escape after it that is followed by at least one character
    let upos := total - (more.length + 11)
    match hexQuad? a b c d with
    | none => .error (.flaw .badUnicodeEscape upos)
    | some hi =>
      if isHighSurrogate hi ∧ more ≠ [] then
        match hexQuad? e f g h with
        | none => .error (.flaw .badUnicodeEscape (total - (more.length + 5)))
        | some lo =>
          if isLowSurrogate lo then scanString total begin (.scalar (pairChar hi lo) :: acc) more
          else
            scanString total begin (CodePoint.ofNat hi :: acc)
              ('\\' :: 'u' :: e :: f :: g :: h :: more)
      else
        scanString total begin (CodePoint.ofNat hi :: acc) ('\\' :: 'u' :: e :: f :: g :: h :: more)
  | '\\' :: 'u' :: a :: b :: c :: d :: rest =>
    let upos := total - (rest.length + 5)
    -- the four digits must be followed by at least one character
    if rest = [] then .error (.flaw .badUnicodeEscape upos)
    else
      match hexQuad? a b c d with
      | none => .error (.flaw .badUnicodeEscape upos)
      | some hi => scanString total begin (CodePoint.ofNat hi :: acc) rest
  | '\\' :: 'u' :: rest => .error (.flaw .badUnicodeEscape (total - (rest.length + 1)))
  | '\\' :: c :: rest =>
    match simpleEscape? c with
    | some e => scanString total begin (.scalar e :: acc) rest
    | none => .error (.flaw .badEscape (total - (rest.length + 2)))
  | c :: rest =>
    if c.toNat ≤ 0x1F then .error (.flaw .controlCharacter (total - (rest.length + 1)))
    else scanString total begin (.scalar c :: acc) rest
termination_by s => s.length

-- ============================================================ numbers

/-- The natural number written by ASCII digits. -/
def digitsValue (ds : List Char) : Nat :=
  ds.foldl (fun n c => n * 10 + (c.toNat - '0'.toNat)) 0

/-- The digits of an integer part: one zero, or a digit from one to nine and all digits after
it. -/
def integerPart : List Char → Option (List Char × List Char)
  | '0' :: rest => some (['0'], rest)
  | c :: rest =>
    if '1' ≤ c ∧ c ≤ '9' then some (c :: rest.takeWhile isDigit, rest.dropWhile isDigit)
    else none
  | [] => none

/-- The digits of a fraction: a point and at least one digit; none otherwise. -/
def fractionPart : List Char → List Char × List Char
  | '.' :: d :: rest =>
    if isDigit d then (d :: rest.takeWhile isDigit, rest.dropWhile isDigit)
    else ([], '.' :: d :: rest)
  | s => ([], s)

/-- The exponent: a mark, an optional sign and at least one digit; none otherwise. -/
def exponentPart (s : List Char) : Option Int × List Char :=
  match s with
  | m :: rest =>
    if m = 'e' ∨ m = 'E' then
      let (neg, body) := match rest with
        | '-' :: r => (true, r)
        | '+' :: r => (false, r)
        | r => (false, r)
      let ds := body.takeWhile isDigit
      if ds = [] then (none, s)
      else
        let n : Int := digitsValue ds
        (some (if neg then -n else n), body.dropWhile isDigit)
    else (none, s)
  | [] => (none, s)

/-- Scans a number at the start of the text. -/
def scanNumber (total : Nat) (s : List Char) : Except Stop (Value × List Char) :=
  let start := total - s.length
  let (neg, body) := match s with
    | '-' :: r => (true, r)
    | r => (false, r)
  match integerPart body with
  | none => .error (.flaw .expectingValue start)
  | some (whole, rest) =>
    let (frac, rest) := fractionPart rest
    let (exp, rest) := exponentPart rest
    if frac = [] ∧ exp = none then
      if whole.length > maxIntegerDigits then .error (.longInteger whole.length)
      else
        let n : Int := digitsValue whole
        .ok (.int (if neg then -n else n), rest)
    else
      let e : Int := exp.getD 0 - frac.length
      .ok (.float (Decimal.toFloat neg (digitsValue (whole ++ frac)) e), rest)

-- ============================================================ values

mutual

/-- Scans one value at the start of the text, inside `depth` containers, of which there may be
at most `limit`. Each call spends one unit of fuel. -/
def scanValue (total limit depth : Nat) : Nat → List Char → Except Stop (Value × List Char)
  | 0, s => .error (.flaw .expectingValue (total - s.length))
  | _, [] => .error (.flaw .expectingValue total)
  | _, '"' :: rest => do
    let (t, rest) ← scanString total (total - (rest.length + 1)) [] rest
    pure (.str t, rest)
  | fuel + 1, '{' :: rest =>
    if limit ≤ depth then .error .tooDeep
    else
      match skipBlanks rest with
      | '}' :: rest => .ok (.obj [], rest)
      | s => scanFields total limit (depth + 1) fuel s []
  | fuel + 1, '[' :: rest =>
    if limit ≤ depth then .error .tooDeep
    else
      match skipBlanks rest with
      | ']' :: rest => .ok (.arr [], rest)
      | s => scanItems total limit (depth + 1) fuel s []
  | _, 'n' :: 'u' :: 'l' :: 'l' :: rest => .ok (.null, rest)
  | _, 't' :: 'r' :: 'u' :: 'e' :: rest => .ok (.bool true, rest)
  | _, 'f' :: 'a' :: 'l' :: 's' :: 'e' :: rest => .ok (.bool false, rest)
  | _, 'N' :: 'a' :: 'N' :: rest => .ok (.float (0.0 / 0.0), rest)
  | _, 'I' :: 'n' :: 'f' :: 'i' :: 'n' :: 'i' :: 't' :: 'y' :: rest =>
    .ok (.float (1.0 / 0.0), rest)
  | _, '-' :: 'I' :: 'n' :: 'f' :: 'i' :: 'n' :: 'i' :: 't' :: 'y' :: rest =>
    .ok (.float (-(1.0 / 0.0)), rest)
  | _, s => scanNumber total s

/-- Scans the items of an array from the first one on, the items inside `depth` containers;
`acc` holds those read, in reverse. -/
def scanItems (total limit depth : Nat) :
    Nat → List Char → List Value → Except Stop (Value × List Char)
  | 0, s, _ => .error (.flaw .expectingValue (total - s.length))
  | fuel + 1, s, acc => do
    let (v, rest) ← scanValue total limit depth fuel s
    match skipBlanks rest with
    | ']' :: rest => pure (.arr (v :: acc).reverse, rest)
    | ',' :: rest => scanItems total limit depth fuel (skipBlanks rest) (v :: acc)
    | rest => .error (.flaw .expectingComma (total - rest.length))

/-- Scans the fields of an object from the first name on, the values inside `depth` containers;
`acc` holds those read, in order. -/
def scanFields (total limit depth : Nat) :
    Nat → List Char → Fields → Except Stop (Value × List Char)
  | 0, s, _ => .error (.flaw .expectingValue (total - s.length))
  | fuel + 1, '"' :: rest, acc => do
    let (k, rest) ← scanString total (total - (rest.length + 1)) [] rest
    match skipBlanks rest with
    | ':' :: rest =>
      let (v, rest) ← scanValue total limit depth fuel (skipBlanks rest)
      let acc := Value.setField acc k v
      match skipBlanks rest with
      | '}' :: rest => pure (.obj acc, rest)
      | ',' :: rest => scanFields total limit depth fuel (skipBlanks rest) acc
      | rest => .error (.flaw .expectingComma (total - rest.length))
    | rest => .error (.flaw .expectingColon (total - rest.length))
  | _ + 1, s, _ => .error (.flaw .expectingName (total - s.length))

end

-- ============================================================ texts

/-- The line and column of a position, both counted from one. -/
def locate (cs : List Char) (pos : Nat) : Nat × Nat :=
  let before := cs.take pos
  (before.count '\n' + 1, (before.reverse.takeWhile (· ≠ '\n')).length + 1)

/-- The read error of a scanning failure in a text. -/
def Stop.toError (cs : List Char) : Stop → ReadError
  | .flaw f pos =>
    let (line, column) := locate cs pos
    .malformed f pos line column
  | .longInteger n => .longInteger n
  | .tooDeep => .tooDeep

/-- Reads a whole text as one value, with blanks around it, and arrays and objects at most
`limit` deep. -/
def readWithin (limit : Nat) (text : String) : Except ReadError Value :=
  let cs := text.toList
  let total := cs.length
  if cs.head? = some '\uFEFF' then .error (Stop.toError cs (.flaw .byteOrderMark 0))
  else
    -- every scan step reads at least one character, so twice the length plus two is enough
    match scanValue total limit 0 (2 * total + 2) (skipBlanks cs) with
    | .error stop => .error (stop.toError cs)
    | .ok (v, rest) =>
      match skipBlanks rest with
      | [] => .ok v
      | rest => .error (Stop.toError cs (.flaw .extraData (total - rest.length)))

/-- Reads a whole text as one value, with blanks around it. No array or object stands deeper
than the text is long, so none is refused for its depth. -/
def read (text : String) : Except ReadError Value := readWithin (text.length + 1) text

end Remap.Json
