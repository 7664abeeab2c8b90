/-!
Text that may hold surrogate code points.

JSON text spells a code point above U+FFFF as two escapes, a high and a low surrogate, and a
reader joins such a pair into one character. An escape of a surrogate with no partner still
names a code point, U+D800 to U+DFFF, but no `Char` can hold it. Text read from JSON keeps such a
code point as it is, so `Text` is a list of `CodePoint`s, each a character or a surrogate.
Writers show a surrogate by its escape, since UTF-8 has no form for it.

`Text.ofString` and `Text.toString?` pass between strings and texts without surrogates
(`toString?_ofString`).
-/

namespace Remap

/-- A code point: a Unicode scalar value, or the surrogate code point `U+D800 + offset`. -/
inductive CodePoint where
  | scalar (c : Char)
  | surrogate (offset : Fin 0x800)
  deriving DecidableEq, Inhabited

namespace CodePoint

/-- The number of a code point. -/
def toNat : CodePoint → Nat
  | .scalar c => c.toNat
  | .surrogate k => 0xD800 + k.val

/-- The code point of a number below `0x110000`. -/
def ofNat (n : Nat) : CodePoint :=
  if h : 0xD800 ≤ n ∧ n < 0xE000 then .surrogate ⟨n - 0xD800, by omega⟩
  else .scalar (Char.ofNat n)

/-- The character of a code point, unless it is a surrogate. -/
def toChar? : CodePoint → Option Char
  | .scalar c => some c
  | .surrogate _ => none

end CodePoint

/-- Text: code points in order. -/
abbrev Text := List CodePoint

namespace Text

/-- The text of a string. -/
def ofString (s : String) : Text := s.toList.map .scalar

/-- The string of a text, if the text holds no surrogate. -/
def toString? (t : Text) : Option String := (t.mapM CodePoint.toChar?).map String.ofList

theorem mapM_toChar?_scalar (cs : List Char) :
    (cs.map CodePoint.scalar).mapM CodePoint.toChar? = some cs := by
  induction cs with
  | nil => rfl
  | cons c cs ih => simp [List.mapM_cons, CodePoint.toChar?, ih]

@[simp] theorem toString?_ofString (s : String) : toString? (ofString s) = some s := by
  rw [toString?, ofString, mapM_toChar?_scalar]
  simp

theorem length_ofString (s : String) : (ofString s).length = s.length := by
  simp [ofString, String.length_toList]

end Text

end Remap
