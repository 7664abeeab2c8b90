import Remap.Text.Printable
import Remap.Text.CodePoint
/-!
Text shown as a quoted literal, as messages show text inside a value. The quote is a single
quote, unless the text holds a single quote and no double quote; then it is a double quote.
Inside, the chosen quote and the backslash get a backslash before them; tab, line feed and
carriage return are written `\t`, `\n`, `\r`; any other character that is not printable is
written as a hex escape of two, four or eight digits (`\x07`, `\u200b`, `\U0001f600`), the
shortest that holds its code point. Printable characters, ASCII or not, stand as they are. A
surrogate code point is never printable, so it is always written `\udXXX`.
-/

namespace Remap.Text

/-- The quote a text is shown in. -/
def quoteFor (s : Text) : Char :=
  if s.contains (.scalar '\'') && !s.contains (.scalar '"') then '"' else '\''

/-- The lower case hex digits of a number, padded with zeros to a width. -/
def hexDigits (width n : Nat) : List Char :=
  (List.range width).reverse.map fun k => Nat.digitChar (n / Nat.pow 16 k % 16)

/-- The written form of one character inside the given quote. -/
def showChar (q c : Char) : List Char :=
  let n := c.toNat
  if c = q ∨ c = '\\' then ['\\', c]
  else if c = '\t' then ['\\', 't']
  else if c = '\n' then ['\\', 'n']
  else if c = '\r' then ['\\', 'r']
  else if n < 0x20 ∨ n = 0x7F then '\\' :: 'x' :: hexDigits 2 n
  else if n < 0x7F ∨ isPrintable c then [c]
  else if n ≤ 0xFF then '\\' :: 'x' :: hexDigits 2 n
  else if n ≤ 0xFFFF then '\\' :: 'u' :: hexDigits 4 n
  else '\\' :: 'U' :: hexDigits 8 n

/-- The written form of one code point inside the given quote. -/
def showPoint (q : Char) : CodePoint → List Char
  | .scalar c => showChar q c
  | .surrogate k => '\\' :: 'u' :: hexDigits 4 (0xD800 + k.val)

/-- A text as a stream writes it when it escapes what UTF-8 cannot encode: each surrogate as its
escape `\udXXX`, every character as it is. -/
def escapingSurrogates (s : Text) : String :=
  String.ofList (s.flatMap fun
    | .scalar c => [c]
    | .surrogate k => '\\' :: 'u' :: hexDigits 4 (0xD800 + k.val))

/-- A text as a quoted literal. -/
def quoted (s : Text) : String :=
  let q := quoteFor s
  String.ofList (q :: (s.flatMap (showPoint q) ++ [q]))

end Remap.Text
