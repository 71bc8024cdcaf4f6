import Notebase.Number.Shortest
import Notebase.Text.Basic

/-!
How numbers with a fraction are written: with the fewest digits that read back, or with a fixed
number of places.
-/

namespace Notebase.Number

/-- The sign, mantissa and exponent of a finite number, and whether the gap below it is the
narrow one. -/
structure Binary where
  negative : Bool
  mantissa : Nat
  exponent : Int
  narrow : Bool

/-- A number that is written with digits, or one of the special ones. -/
inductive Parts where
  | finite (b : Binary)
  | infinite (negative : Bool)
  | notANumber

def parts (x : Float) : Parts :=
  let bits : Nat := x.toBits.toNat
  let negative : Bool := bits / Nat.pow 2 63 = 1
  let field : Nat := bits / Nat.pow 2 52 % Nat.pow 2 11
  let fraction : Nat := bits % Nat.pow 2 52
  if field = 2047 then
    if fraction = 0 then .infinite negative else .notANumber
  else if field = 0 then .finite ⟨negative, fraction, -1074, false⟩
  else .finite ⟨negative, fraction + Nat.pow 2 52, (field : Int) - 1075, fraction = 0 && field != 1⟩

/-- A decimal in positions, if its point stands within sixteen places after the first digit and
less than four zeros before it, and with an exponent of at least two digits otherwise. -/
def Decimal.text (d : Decimal) : Text :=
  let digits := dropEndWhile (· == '0') (Text.ofNat d.digits)
  let count := digits.length
  if -4 < d.point && d.point ≤ 16 then
    if d.point ≤ 0 then "0.".toList ++ List.replicate (-d.point).toNat '0' ++ digits
    else
      let whole := d.point.toNat
      if count ≤ whole then digits ++ List.replicate (whole - count) '0' ++ ".0".toList
      else digits.take whole ++ '.' :: digits.drop whole
  else
    let e := d.point - 1
    let size := Text.ofNat e.natAbs
    digits.take 1 ++ (if count ≤ 1 then [] else '.' :: digits.drop 1) ++
      ['e', if e < 0 then '-' else '+'] ++
      (if size.length < 2 then '0' :: size else size)

/-- A number with the fewest digits that read back. -/
def text (x : Float) : Text :=
  match parts x with
  | .notANumber => "nan".toList
  | .infinite negative => (if negative then "-inf" else "inf").toList
  | .finite b =>
      let size := if b.mantissa = 0 then "0.0".toList
        else (shortest b.mantissa b.exponent b.narrow).text
      if b.negative then '-' :: size else size

/-- A number that is not negative with one place after the point, a half going to the even
neighbour. -/
def onePlace (x : Float) : Text :=
  match parts x with
  | .finite b =>
      let tenths := roundDiv (b.mantissa * 10 * Nat.pow 2 b.exponent.toNat)
        (Nat.pow 2 (-b.exponent).toNat)
      Text.ofNat (tenths / 10) ++ '.' :: Text.ofNat (tenths % 10)
  | _ => text x

end Notebase.Number
