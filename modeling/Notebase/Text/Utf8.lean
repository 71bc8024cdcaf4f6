import Notebase.Text.Basic

/-!
UTF-8: the bytes of a text, and the text of any bytes. Bytes that are the form of no character
become replacement characters, one for each longest start of a form and one for each byte that
starts none.
-/

namespace Notebase

def utf8OfChar (c : Char) : List Nat :=
  let n := c.toNat
  if n < 0x80 then [n]
  else if n < 0x800 then [0xC0 + n / 0x40, 0x80 + n % 0x40]
  else if n < 0x10000 then [0xE0 + n / 0x1000, 0x80 + n / 0x40 % 0x40, 0x80 + n % 0x40]
  else [0xF0 + n / 0x40000, 0x80 + n / 0x1000 % 0x40, 0x80 + n / 0x40 % 0x40, 0x80 + n % 0x40]

/-- A character of which a first part has been read: how many bytes are owed after the next one,
the least and the greatest value of the next one, and the value of the part. -/
structure OpenChar where
  owed : Nat
  low : Nat
  high : Nat
  value : Nat
deriving DecidableEq, Repr

/-- The character that a byte beyond ASCII opens, if it opens one. The range of the next byte
leaves out longer forms than needed, halves of pairs and values beyond the last character. -/
def OpenChar.ofByte? (b : Nat) : Option OpenChar :=
  if 0xC2 ≤ b && b < 0xE0 then some ⟨0, 0x80, 0xBF, b - 0xC0⟩
  else if 0xE0 ≤ b && b < 0xF0 then
    some ⟨1, if b = 0xE0 then 0xA0 else 0x80, if b = 0xED then 0x9F else 0xBF, b - 0xE0⟩
  else if 0xF0 ≤ b && b < 0xF5 then
    some ⟨2, if b = 0xF0 then 0x90 else 0x80, if b = 0xF4 then 0x8F else 0xBF, b - 0xF0⟩
  else none

namespace Text

def utf8 (t : Text) : List Nat := t.flatMap utf8OfChar

/-- What a byte that starts a character comes to; `rest` reads on after it, with the character
that it opens. -/
def startWith (b : Nat) (rest : Option OpenChar → Text) : Text :=
  if b < 0x80 then Char.ofNat b :: rest none
  else
    match OpenChar.ofByte? b with
    | some o => rest (some o)
    | none => '\uFFFD' :: rest none

/-- The text of some bytes, the first of which go on with an open character if there is one. -/
def ofUtf8From : Option OpenChar → List Nat → Text
  | none, [] => []
  | some _, [] => ['\uFFFD']
  | none, b :: rest => startWith b (ofUtf8From · rest)
  | some o, b :: rest =>
      if o.low ≤ b && b ≤ o.high then
        let value := o.value * 0x40 + (b - 0x80)
        match o.owed with
        | 0 => Char.ofNat value :: ofUtf8From none rest
        | owed + 1 => ofUtf8From (some ⟨owed, 0x80, 0xBF, value⟩) rest
      else '\uFFFD' :: startWith b (ofUtf8From · rest)

def ofUtf8 (bytes : List Nat) : Text := ofUtf8From none bytes

end Text

end Notebase
