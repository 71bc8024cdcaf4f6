import Notebase.Text.Basic

/-!
Whole numbers as they are typed into a field. White space around the number, a plus sign, zeros
in front, single underscores between digits and zeros after a decimal point mean nothing; what is
left has to be the one decimal form of the number (`ofDecimal?`), of at most 4300 characters.
-/

namespace Notebase.Number

/-! ### Decimal forms -/

/-- The greatest number of characters of a whole number. -/
def maxLength : Nat := 4300

def ofDigits (ds : Text) : Nat := ds.foldl (fun n d => 10 * n + (d.toNat - '0'.toNat)) 0

/-- The number with these digits, which start with a zero only if they are one. -/
def ofCanonicalDigits? (ds : Text) : Option Nat :=
  if !ds.isEmpty && ds.all Char.isDigit && (ds.head? != some '0' || ds.length == 1) then
    some (ofDigits ds)
  else none

/-- The number with this decimal form: digits, perhaps after a minus sign. -/
def ofDecimal? (t : Text) : Option Int :=
  if maxLength < t.length then none
  else
    match t with
    | '-' :: ds => (ofCanonicalDigits? ds).map fun n => -(n : Int)
    | ds => (ofCanonicalDigits? ds).map fun n => (n : Int)

/-! ### What means nothing -/

/-- Drops zeros and underscores up to the first digit that counts. `last` is the one before; it
stays where no such digit follows and what ends is the text or the part before the point. -/
def dropZeros? (last : Char) : Text → Option Text
  | [] => some [last]
  | c :: t =>
      if c = '0' || c = '_' then dropZeros? c t
      else if c = '.' then some (last :: c :: t)
      else if c.isDigit then some (c :: t)
      else none

/-- Drops the zeros in front of a number, which has to start with a digit or a minus sign. -/
def dropLeadingZeros? : Text → Option Text
  | [] => none
  | c :: t =>
      if c = '0' then dropZeros? c t
      else if c = '-' || c.isDigit then some (c :: t)
      else none

/-- Drops a decimal point and the zeros after it. A point without a digit after it stays. -/
def dropPlaces (t : Text) : Text :=
  match t.dropWhile (· != '.') with
  | '.' :: d :: places => if (d :: places).all (· == '0') then t.takeWhile (· != '.') else t
  | _ => t

/-- Drops the underscores of a number that has a character on each side of every one of them and
no two together. -/
def joinGroups (t : Text) : Text :=
  let groups := t.splitOnP (· == '_')
  if groups.all (!·.isEmpty) then groups.flatten else t

def readWhole? (t : Text) : Option Int :=
  let unsigned? := match t.trimBy isWhiteSpace with
    | '+' :: '-' :: _ => none
    | '+' :: rest => some rest
    | rest => some rest
  (unsigned?.bind dropLeadingZeros?).bind fun t => ofDecimal? (joinGroups (dropPlaces t))

end Notebase.Number
