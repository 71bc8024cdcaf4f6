import Notebase.Text.Utf8

/-!
The encoding of a JSON document. A document starts with characters of ASCII, so where the zeros
stand among its first four bytes tells how wide its units are and which byte of a unit comes
first. Without zeros it is UTF-8, perhaps behind a byte order mark.
-/

namespace Notebase.Json

/-! ### Units -/

/-- Which byte of a unit comes first. -/
inductive ByteOrder where
  | big
  | little
deriving DecidableEq, Repr

/-- The value of two parts of a unit, where the lower part counts `base` values. -/
def ByteOrder.join (order : ByteOrder) (base first second : Nat) : Nat :=
  match order with
  | .big => first * base + second
  | .little => second * base + first

/-- Pairs of parts as units; none if a part is left over. -/
def ByteOrder.pairs? (order : ByteOrder) (base : Nat) : List Nat → Option (List Nat)
  | [] => some []
  | [_] => none
  | a :: b :: rest => (order.pairs? base rest).map (order.join base a b :: ·)

/-- The text of units of two bytes; none if half of a pair stands alone. -/
def ofUtf16? : List Nat → Option Text
  | [] => some []
  | u :: rest =>
      if u < 0xD800 || 0xE000 ≤ u then (ofUtf16? rest).map (Char.ofNat u :: ·)
      else
        match rest with
        | [] => none
        | v :: rest =>
            if u < 0xDC00 && 0xDC00 ≤ v && v < 0xE000 then
              (ofUtf16? rest).map
                (Char.ofNat (0x10000 + (u - 0xD800) * 0x400 + (v - 0xDC00)) :: ·)
            else none

/-- The text of units of four bytes; none if one of them is no character. -/
def ofUtf32? (units : List Nat) : Option Text :=
  if units.all fun u => u < 0xD800 || (0xE000 ≤ u && u < 0x110000) then
    some (units.map Char.ofNat)
  else none

/-! ### Encodings -/

inductive Encoding where
  | utf16 (order : ByteOrder)
  | utf32 (order : ByteOrder)
deriving DecidableEq, Repr

/-- The wide encoding that the first four bytes of a document tell, if they tell one. -/
def Encoding.ofStart? : List Nat → Option Encoding
  | [0, 0, 0, d] => if d = 0 then none else some (.utf32 .big)
  | [a, 0, 0, 0] => if a = 0 then none else some (.utf32 .little)
  | [0, b, 0, d] => if b = 0 || d = 0 then none else some (.utf16 .big)
  | [a, 0, c, 0] => if a = 0 || c = 0 then none else some (.utf16 .little)
  | _ => none

def Encoding.decode? (bytes : List Nat) : Encoding → Option Text
  | .utf16 order => (order.pairs? 0x100 bytes).bind ofUtf16?
  | .utf32 order =>
      ((order.pairs? 0x100 bytes).bind (order.pairs? 0x10000)).bind ofUtf32?

/-- The document whose bytes have been taken for UTF-8. Where they are not in the encoding that
they tell, the text stays as it is. -/
def document (t : Text) : Text :=
  match t with
  | '\uFEFF' :: c :: rest => c :: rest
  | t => ((Encoding.ofStart? ((Text.utf8 (t.take 4)).take 4)).bind (·.decode? (Text.utf8 t))).getD t

end Notebase.Json
