import Notebase.Regex.Basic
import Notebase.Regex.Progress

/-!
Escapes and classes in a regular expression: how a character, a category or a class of characters
is written.
-/

namespace Notebase.Regex

/-! ### Characters -/

def isHexDigit (c : Char) : Bool := c.isDigit || ('a' ≤ c && c ≤ 'f') || ('A' ≤ c && c ≤ 'F')

def isOctalDigit (c : Char) : Bool := '0' ≤ c && c ≤ '7'

def valueOf (base : Nat) (ds : Text) : Nat :=
  ds.foldl (fun n d =>
    n * base + (if d.isDigit then d.toNat - '0'.toNat else d.toLower.toNat - 'a'.toNat + 10)) 0

/-- The letters of escapes that stand for one control character. -/
def controlEscape? : Char → Option Nat
  | 'a' => some 7
  | 'b' => some 8
  | 'f' => some 12
  | 'n' => some 10
  | 'r' => some 13
  | 't' => some 9
  | 'v' => some 11
  | '\\' => some 92
  | _ => none

/-- The letters of escapes that stand for a category or for what is outside it. -/
def categoryEscape? : Char → Option ClassItem
  | 'd' => some (.category .digit false)
  | 'D' => some (.category .digit true)
  | 's' => some (.category .space false)
  | 'S' => some (.category .space true)
  | 'w' => some (.category .word false)
  | 'W' => some (.category .word true)
  | _ => none

/-- The code of an escape with a number of digits to the base sixteen. -/
def hexEscape (letter : Char) (count : Nat) : Parse Nat := do
  let ds ← takeWhile isHexDigit count
  let escape := ['\\', letter] ++ ds
  if ds.length < count then refuseBack escape.length (.incompleteEscape escape)
  else
    let n := valueOf 16 ds
    if 0x110000 ≤ n then refuseBack escape.length (.badEscape escape) else return n

def namedEscape : Parse Nat := do
  if ← accept '\x7b' then
    let name ← nameUpTo '\x7d' "character name"
    refuseBack (name.length + 4) (.unknownCharacter name)
  else refuse .missingBrace

/-- The code of an escape that means the same everywhere, if the letter is one of those. -/
def commonEscape? (letter : Char) : Parse (Option Nat) :=
  match letter with
  | 'x' => some <$> hexEscape 'x' 2
  | 'u' => some <$> hexEscape 'u' 4
  | 'U' => some <$> hexEscape 'U' 8
  | 'N' => some <$> namedEscape
  | _ => return none

/-- The code of a character with a backslash before it. A letter or digit has to mean
something. -/
def plainEscape (c : Char) : Parse Nat :=
  if c.isAlphanum then refuseBack 2 (.badEscape ['\\', c]) else return c.toNat

/-- An escape of three digits to the base eight. -/
def octalEscape (ds : Text) : Parse Nat :=
  let n := valueOf 8 ds
  if 0o377 < n then refuseBack (ds.length + 1) (.octalTooGreat ('\\' :: ds)) else return n

/-! ### Classes -/

def classEscape (c : Char) : Parse ClassItem := do
  match categoryEscape? c, controlEscape? c with
  | some item, _ => return item
  | none, some n => return .code n
  | none, none =>
      match ← commonEscape? c with
      | some n => return .code n
      | none =>
          if isOctalDigit c then
            return .code (← octalEscape (c :: (← takeWhile isOctalDigit 2)))
          else return .code (← plainEscape c)

def classItem (t : Text) : Parse ClassItem :=
  match t with
  | ['\\', c] => classEscape c
  | t => return .code ((t.head?.map Char.toNat).getD 0)

/-- The rest of a class that opens at `start`, up to its closing bracket; `items` are the parts
so far, the last one first. -/
def classItems (start : Nat) : (fuel : Nat) → (items : List ClassItem) → Parse (List ClassItem)
  | 0, _ => refuseAt start .unterminatedClass
  | fuel + 1, items => do
      let some t ← next | refuseAt start .unterminatedClass
      if t = [']'] && !items.isEmpty then return items.reverse
      else
        let first ← classItem t
        if ← accept '-' then
          let some u ← next | refuseAt start .unterminatedClass
          if u = [']'] then return (.code '-'.toNat :: first :: items).reverse
          else
            let last ← classItem u
            match first, last with
            | .code lo, .code hi =>
                if hi < lo then refuseBack (t.length + 1 + u.length) (.badRange t u)
                else classItems start fuel (.range lo hi :: items)
            | _, _ => refuseBack (t.length + 1 + u.length) (.badRange t u)
        else classItems start fuel (first :: items)

def characterClass (f : Flags) : Parse Regex := do
  let start := (← position) - 1
  let negated ← accept '^'
  return .char (classHas f negated (← classItems start ((← get).rest.length + 1) []))

def literal (f : Flags) (n : Nat) : Regex := .char (classHas f false [.code n])

end Notebase.Regex
