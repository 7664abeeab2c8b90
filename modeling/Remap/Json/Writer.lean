import Remap.Value
import Remap.Decimal.Notation
/-!
Writing a `Value` as JSON text. A `Layout` fixes the choices that JSON leaves open: the text
between items and between a name and its value, whether nested items go on lines of their own
with an indent, and whether text beyond ASCII is escaped.

Integers are written in full, floats by their shortest digits (`FloatFormat.json`), with `NaN`,
`Infinity` and `-Infinity` for values that are not finite. In text, the quote, the backslash and
characters below U+0020 are always escaped, the usual ones by a letter (`\n`) and the rest as
`\u00XX`. When escaping beyond ASCII, every character outside the printable ASCII range is
written as `\uXXXX` in lower case hex, and one above U+FFFF as its two surrogate halves. A
surrogate code point standing alone has no UTF-8 form, so it is written as its escape in every
layout.
-/

namespace Remap.Json

/-- The choices of one JSON text layout. -/
structure Layout where
  /-- spaces per level when each item stands on a line of its own -/
  indent : Option Nat
  /-- what stands between two items -/
  itemSep : String
  /-- what stands between a name and its value -/
  nameSep : String
  /-- whether characters outside printable ASCII are escaped -/
  asciiOnly : Bool

/-- One line, items apart by a comma and a space, ASCII only. -/
def Layout.line : Layout := ⟨none, ", ", ": ", true⟩

/-- Each item on its own line, four spaces per level, ASCII only. -/
def Layout.indented : Layout := ⟨some 4, ",", ": ", true⟩

/-- One line, no spaces, characters beyond ASCII as they are. -/
def Layout.compact : Layout := ⟨none, ",", ":", false⟩

/-- Floats in JSON text: positional for decimal exponents from -4 to 15, two exponent digits at
least, and words for the values that are not finite. -/
def FloatFormat.json : Decimal.FloatFormat := ⟨-4, 15, 2, "NaN", "Infinity"⟩

-- ============================================================ text

/-- Four lower case hex digits of a number below `0x10000`. -/
def hex4 (n : Nat) : List Char :=
  let digit (k : Nat) : Char := Nat.digitChar (n / Nat.pow 16 k % 16)
  [digit 3, digit 2, digit 1, digit 0]

/-- The escape `\uXXXX` of a code unit. -/
def unitEscape (n : Nat) : List Char := '\\' :: 'u' :: hex4 n

/-- The written form of one character inside quotes. -/
def escapeChar (asciiOnly : Bool) (c : Char) : List Char :=
  match c with
  | '"' => ['\\', '"']
  | '\\' => ['\\', '\\']
  | '\n' => ['\\', 'n']
  | '\r' => ['\\', 'r']
  | '\t' => ['\\', 't']
  | '\x08' => ['\\', 'b']
  | '\x0c' => ['\\', 'f']
  | c =>
    let n := c.toNat
    if n < 0x20 then unitEscape n
    else if !asciiOnly || n < 0x7F then [c]
    else if n < 0x10000 then unitEscape n
    else
      let v := n - 0x10000
      unitEscape (0xD800 + v / 0x400) ++ unitEscape (0xDC00 + v % 0x400)

/-- The written form of one code point inside quotes. -/
def escapePoint (asciiOnly : Bool) : CodePoint → List Char
  | .scalar c => escapeChar asciiOnly c
  | .surrogate k => unitEscape (0xD800 + k.val)

/-- A text in quotes, with its code points escaped. -/
def quote (asciiOnly : Bool) (s : Text) : String :=
  String.ofList ('"' :: (s.flatMap (escapePoint asciiOnly) ++ ['"']))

-- ============================================================ values

/-- The line break and indent before an item at a depth, or nothing on one line. -/
def Layout.newline (l : Layout) (depth : Nat) : String :=
  match l.indent with
  | none => ""
  | some n => "\n" ++ String.ofList (List.replicate (n * depth) ' ')

mutual

/-- The text of a value whose first line stands at a depth. -/
def Layout.write (l : Layout) (depth : Nat) : Value → String
  | .null => "null"
  | .bool true => "true"
  | .bool false => "false"
  | .int i => toString i
  | .float x => FloatFormat.json.write x
  | .str s => quote l.asciiOnly s
  | .arr [] => "[]"
  | .arr (v :: vs) =>
    "[" ++ l.newline (depth + 1) ++ l.write (depth + 1) v ++ l.writeItems (depth + 1) vs
      ++ l.newline depth ++ "]"
  | .obj [] => "\x7b\x7d"
  | .obj ((k, v) :: fs) =>
    "\x7b" ++ l.newline (depth + 1) ++ quote l.asciiOnly k ++ l.nameSep ++ l.write (depth + 1) v
      ++ l.writeFields (depth + 1) fs ++ l.newline depth ++ "\x7d"

/-- The items after the first, each after an item separator. -/
def Layout.writeItems (l : Layout) (depth : Nat) : List Value → String
  | [] => ""
  | v :: vs => l.itemSep ++ l.newline depth ++ l.write depth v ++ l.writeItems depth vs

/-- The fields after the first, each after an item separator. -/
def Layout.writeFields (l : Layout) (depth : Nat) : Fields → String
  | [] => ""
  | (k, v) :: fs =>
    l.itemSep ++ l.newline depth ++ quote l.asciiOnly k ++ l.nameSep ++ l.write depth v
      ++ l.writeFields depth fs

end

/-- The JSON text of a value. -/
def Layout.render (l : Layout) (v : Value) : String := l.write 0 v

end Remap.Json
