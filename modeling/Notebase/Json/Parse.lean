import Notebase.Json.Basic
import Notebase.Number.Whole

/-!
Reading JSON. Besides the values of the standard, `NaN`, `Infinity` and `-Infinity` are read; a
whole number has at most 4300 digits; of members with the same key the last one counts, and it
stands where the first one stood. How deep lists and objects may be nested is up to the reader; one
that opens deeper ends the reading there, whatever follows it.
-/

namespace Notebase.Json

def skipBlanks (t : Text) : Text :=
  t.dropWhile fun c => c == ' ' || c == '\t' || c == '\n' || c == '\r'

/-! ### Numbers -/

def takeDigits (t : Text) : Text × Text := (t.takeWhile Char.isDigit, t.dropWhile Char.isDigit)

/-- The exponent at the start of a text, if there is one, and what follows it. -/
def takeExponent (t : Text) : Option Int × Text :=
  match t with
  | e :: rest =>
      if e = 'e' || e = 'E' then
        let (negative, rest') := match rest with
          | '-' :: r => (true, r)
          | '+' :: r => (false, r)
          | r => (false, r)
        match takeDigits rest' with
        | ([], _) => (none, t)
        | (ds, after) =>
            let n : Int := Number.ofDigits ds
            (some (if negative then -n else n), after)
      else (none, t)
  | [] => (none, t)

/-- The fraction at the start of a text, if there is one, and what follows it. -/
def takeFraction (t : Text) : Option Text × Text :=
  match t with
  | '.' :: rest =>
      match takeDigits rest with
      | ([], _) => (none, t)
      | (ds, after) => (some ds, after)
  | _ => (none, t)

/-- The number nearest to `mantissa * 10 ^ exponent`. Beyond four hundred places it is infinite
or zero. -/
def nearest (mantissa : Nat) (exponent : Int) : Float :=
  if mantissa = 0 then 0
  else
    let size := exponent + (Nat.toDigits 10 mantissa).length
    if 400 < size then 1 / 0
    else if size < -400 then 0
    else if exponent < 0 then Float.ofScientific mantissa true exponent.natAbs
    else Float.ofScientific mantissa false exponent.natAbs

/-- A number without its sign, and what follows it. -/
def parseMagnitude? (negative : Bool) (t : Text) : Option (Json × Text) :=
  let (whole, rest) := match t with
    | '0' :: r => (['0'], r)
    | _ => takeDigits t
  if whole.isEmpty then none
  else
    let (fraction, rest) := takeFraction rest
    let (exponent, rest) := takeExponent rest
    match fraction, exponent with
    | none, none =>
        if Number.maxLength < whole.length then none
        else
          let n : Int := Number.ofDigits whole
          some (.int (if negative then -n else n), rest)
    | _, _ =>
        let ds := fraction.getD []
        let x := nearest (Number.ofDigits (whole ++ ds)) (exponent.getD 0 - ds.length)
        some (.float (if negative then -x else x), rest)

/-! ### Texts -/

/-- The value of four digits to the base sixteen, and what follows them. -/
def parseUnit? : Text → Option (Nat × Text)
  | a :: b :: c :: d :: rest => do
      let digit? := fun x : Char =>
        if x.isDigit then some (x.toNat - '0'.toNat)
        else if 'a' ≤ x && x ≤ 'f' then some (x.toNat - 'a'.toNat + 10)
        else if 'A' ≤ x && x ≤ 'F' then some (x.toNat - 'A'.toNat + 10)
        else none
      let a ← digit? a
      let b ← digit? b
      let c ← digit? c
      let d ← digit? d
      return (((a * 16 + b) * 16 + c) * 16 + d, rest)
  | _ => none

/-- The character that a unit stands for, with the unit after it if the two are a pair. Half of
a pair stands for the replacement character. -/
def joinUnits (first : Nat) (rest : Text) : Char × Text :=
  if 0xD800 ≤ first && first < 0xDC00 then
    match rest with
    | '\\' :: 'u' :: more =>
        match parseUnit? more with
        | some (second, after) =>
            if 0xDC00 ≤ second && second < 0xE000 then
              (Char.ofNat (0x10000 + (first - 0xD800) * 0x400 + (second - 0xDC00)), after)
            else ('\uFFFD', rest)
        | none => ('\uFFFD', rest)
    | _ => ('\uFFFD', rest)
  else if 0xDC00 ≤ first && first < 0xE000 then ('\uFFFD', rest)
  else (Char.ofNat first, rest)

def shortEscape? : Char → Option Char
  | '"' => some '"'
  | '\\' => some '\\'
  | '/' => some '/'
  | 'b' => some '\x08'
  | 'f' => some '\x0c'
  | 'n' => some '\n'
  | 'r' => some '\r'
  | 't' => some '\t'
  | _ => none

/-- The text up to the closing quotation mark, and what follows it. Controls have to be
escaped. -/
def parseText? : (fuel : Nat) → Text → Option (Text × Text)
  | 0, _ => none
  | _ + 1, [] => none
  | _ + 1, '"' :: rest => some ([], rest)
  | fuel + 1, '\\' :: 'u' :: rest => do
      let (unit, rest) ← parseUnit? rest
      let (c, rest) := joinUnits unit rest
      let (t, rest) ← parseText? fuel rest
      return (c :: t, rest)
  | fuel + 1, '\\' :: e :: rest => do
      let c ← shortEscape? e
      let (t, rest) ← parseText? fuel rest
      return (c :: t, rest)
  | fuel + 1, c :: rest => do
      if c.toNat < 0x20 || c = '\\' then none
      else
        let (t, rest) ← parseText? fuel rest
        return (c :: t, rest)

/-- The key of a member with the colon after it, and what follows them. -/
def parseKey? : Text → Option (Text × Text)
  | '"' :: rest => do
      let (key, rest) ← parseText? (rest.length + 1) rest
      match skipBlanks rest with
      | ':' :: rest => return (key, skipBlanks rest)
      | _ => none
  | _ => none

/-! ### Values -/

def wordValues : List (Text × Json) := [
  ("null".toList, .null),
  ("true".toList, .bool true),
  ("false".toList, .bool false),
  ("NaN".toList, .float (0 / 0)),
  ("Infinity".toList, .float (1 / 0)),
  ("-Infinity".toList, .float (-1 / 0))]

/-- A value that has no parts, and what follows it. -/
def parseScalar? (t : Text) : Option (Json × Text) :=
  match t with
  | '"' :: rest => (parseText? (rest.length + 1) rest).map fun (s, rest) => (.str s, rest)
  | _ =>
      match wordValues.findSome? fun (word, j) => (Text.after? word t).map fun r => (j, r) with
      | some found => some found
      | none =>
          match t with
          | '-' :: rest => parseMagnitude? true rest
          | _ => parseMagnitude? false t

inductive Container where
  | array
  | object
deriving DecidableEq, Repr

/-- Why a text is not read: it is not JSON, or a container opens too deep in it. -/
inductive Fault where
  | malformed
  | tooDeep (container : Container)
deriving DecidableEq, Repr

/-- A part that is there, or else the fault that the text is not JSON. -/
def wellFormed {α : Type} : Option α → Except Fault α
  | some a => .ok a
  | none => .error .malformed

mutual

/-- A value, and what follows it; `depth` more containers may be opened. -/
def parseValue : (fuel depth : Nat) → Text → Except Fault (Json × Text)
  | 0, _, _ => .error .malformed
  | _ + 1, 0, '[' :: _ => .error (.tooDeep .array)
  | _ + 1, 0, '\x7b' :: _ => .error (.tooDeep .object)
  | fuel + 1, depth + 1, '[' :: rest =>
      match skipBlanks rest with
      | ']' :: after => .ok (.arr [], after)
      | items => (parseItems fuel depth items).map fun (l, after) => (.arr l, after)
  | fuel + 1, depth + 1, '\x7b' :: rest =>
      match skipBlanks rest with
      | '\x7d' :: after => .ok (.obj [], after)
      | members =>
          (parseMembers fuel depth members).map fun (l, after) => (.obj (Dict.ofList l), after)
  | _ + 1, _, t => wellFormed (parseScalar? t)

/-- The items of a list that is not empty, up to its closing bracket. -/
def parseItems : (fuel depth : Nat) → Text → Except Fault (List Json × Text)
  | 0, _, _ => .error .malformed
  | fuel + 1, depth, t => do
      let (item, rest) ← parseValue fuel depth t
      match skipBlanks rest with
      | ']' :: after => return ([item], after)
      | ',' :: rest =>
          let (items, after) ← parseItems fuel depth (skipBlanks rest)
          return (item :: items, after)
      | _ => .error .malformed

/-- The members of an object that is not empty, up to its closing brace. -/
def parseMembers : (fuel depth : Nat) → Text → Except Fault (List (Text × Json) × Text)
  | 0, _, _ => .error .malformed
  | fuel + 1, depth, t => do
      let (key, rest) ← wellFormed (parseKey? t)
      let (value, rest) ← parseValue fuel depth rest
      match skipBlanks rest with
      | '\x7d' :: after => return ([(key, value)], after)
      | ',' :: rest =>
          let (members, after) ← parseMembers fuel depth (skipBlanks rest)
          return ((key, value) :: members, after)
      | _ => .error .malformed

end

/-- Reads a text that holds one value and nothing else but blanks, with at most `depth` containers
open at once. -/
def readWithin (depth : Nat) (t : Text) : Except Fault Json := do
  let (j, rest) ← parseValue (2 * t.length + 2) depth (skipBlanks t)
  if (skipBlanks rest).isEmpty then return j else .error .malformed

/-- How many containers may be open at once where programs are run: what a stack has room for, and
no property of JSON. -/
def maxDepth : Nat := 988

def read (t : Text) : Except Fault Json := readWithin maxDepth t

end Notebase.Json
