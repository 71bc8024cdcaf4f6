/-!
The shortest decimal that reads back as a binary fraction. A number `mantissa * 2 ^ exponent` is
read back from every decimal that lies closer to it than to its neighbours. Among those decimals
the one with the fewest digits is chosen, and of several with that many the nearest.

All arithmetic is exact, on quotients of natural numbers.
-/

namespace Notebase.Number

/-- A decimal `0.d₁d₂…dₙ * 10 ^ point`, as the number that its digits make. -/
structure Decimal where
  digits : Nat
  point : Int
deriving DecidableEq, Repr

/-- A number with the numbers halfway to its neighbours, as quotients over `den`. The halfway
numbers themselves read back where `closed` says so. -/
structure Rounding where
  value : Nat
  low : Nat
  high : Nat
  den : Nat
  closed : Bool

/-- The rounding interval of `mantissa * 2 ^ exponent`. The gap below a power of two is half the
gap above it, except at the bottom of the range. -/
def Rounding.ofBinary (mantissa : Nat) (exponent : Int) (narrow : Bool) : Rounding :=
  let up := Nat.pow 2 (exponent - 2).toNat
  { value := 4 * mantissa * up
    low := (4 * mantissa - if narrow then 1 else 2) * up
    high := (4 * mantissa + 2) * up
    den := Nat.pow 2 (2 - exponent).toNat
    closed := mantissa % 2 = 0 }

def Rounding.admits (r : Rounding) (n : Nat) (scale : Int) : Bool :=
  let point := n * Nat.pow 10 scale.toNat * r.den
  let unit := Nat.pow 10 (-scale).toNat
  if r.closed then r.low * unit ≤ point && point ≤ r.high * unit
  else r.low * unit < point && point < r.high * unit

/-- The decimal point of a quotient: the `p` with `10 ^ (p - 1) ≤ value / den < 10 ^ p`, found
within `fuel` places after the point. -/
def decimalPoint (value den : Nat) : (fuel : Nat) → Int
  | 0 => 0
  | fuel + 1 =>
      if den ≤ value then (Nat.toDigits 10 (value / den)).length
      else if den ≤ value * 10 then 0
      else decimalPoint (value * 10) den fuel - 1

/-- The neighbour of the value on the grid `10 ^ scale` that reads back; of two the nearer, and
of two equally near the even one. -/
def Rounding.neighbour? (r : Rounding) (scale : Int) : Option Nat :=
  let num := r.value * Nat.pow 10 (-scale).toNat
  let den := r.den * Nat.pow 10 scale.toNat
  let below := num / den
  let rest := num % den
  match r.admits below scale, r.admits (below + 1) scale with
  | false, false => none
  | true, false => some below
  | false, true => some (below + 1)
  | true, true =>
      if 2 * rest < den then some below
      else if den < 2 * rest then some (below + 1)
      else if below % 2 = 0 then some below
      else some (below + 1)

/-- The first grid from `count` digits on that has a number that reads back. -/
def Rounding.search (r : Rounding) (point : Int) : (fuel count : Nat) → Decimal
  | 0, _ => ⟨0, point⟩
  | fuel + 1, count =>
      match r.neighbour? (point - count) with
      | some n =>
          if n = Nat.pow 10 count then ⟨1, point + 1⟩ else ⟨n, point⟩
      | none => r.search point fuel (count + 1)

/-- The shortest decimal of a positive `mantissa * 2 ^ exponent`. Seventeen digits suffice for a
mantissa below `2 ^ 53`. -/
def shortest (mantissa : Nat) (exponent : Int) (narrow : Bool) : Decimal :=
  let r := Rounding.ofBinary mantissa exponent narrow
  r.search (decimalPoint r.value r.den 400) 17 1

/-- The quotient rounded to the nearest whole number, a half to the even one. -/
def roundDiv (num den : Nat) : Nat :=
  let below := num / den
  let rest := num % den
  if 2 * rest < den then below
  else if den < 2 * rest then below + 1
  else if below % 2 = 0 then below
  else below + 1

end Notebase.Number
