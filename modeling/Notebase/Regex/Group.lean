import Notebase.Number.Whole
import Notebase.Regex.Escape

/-!
What opens with a parenthesis in a regular expression: groups with and without a number or a name,
flags, assertions, conditions, references to groups, and comments.
-/

namespace Notebase.Regex

/-! ### References to groups -/

def checkLookbehind (n : Nat) : Parse Unit := do
  let p ← get
  match p.behind with
  | none => return ()
  | some before =>
      if (p.widths[n - 1]?.bind id).isNone then refuse .openGroup
      else if before ≤ n then refuse .groupInLookbehind
      else return ()

/-- A reference to a group that has been read, which `back` characters have been taken for. -/
def reference (f : Flags) (n back : Nat) : Parse Regex := do
  match (← get).widths[n - 1]?.bind id with
  | none => refuseBack back .openGroup
  | some (least, most) =>
      checkLookbehind n
      return .again n least most (if f.ignoreCase then f.lower else id)

/-! ### Flags of a group -/

def isFlag (c : Char) : Bool := "iLmsxatu".toList.contains c

def isLetter (c : Char) : Bool :=
  isWordChar c && c != '_' && !Ranges.has c.toNat digitRanges &&
    !Ranges.has c.toNat [(0xB2, 0xB3), (0xB9, 0xB9), (0xBC, 0xBE)]

def isLetterToken : Text → Bool
  | [c] => isLetter c
  | _ => false

def refuseFlag {α : Type} (cause : Cause) (t : Text) : Parse α :=
  refuseBack t.length (if isLetterToken t then .unknownFlag else cause)

def isTypeFlag (c : Char) : Bool := c == 'a' || c == 'u' || c == 'L'

/-- Flags that are turned on, from the flag `c` on, which has been taken; `on` are those before
it. What ends them is returned with them. -/
def flagsOn : (fuel : Nat) → (on : Text) → (c : Char) → Parse (Text × Char)
  | 0, _, _ => refuse .missingFlagEnd
  | fuel + 1, on, c => do
      if c = 'L' then refuse .localeFlag
      else if isTypeFlag c && on.any fun d => isTypeFlag d && d != c then
        refuse .incompatibleFlags
      else
        match ← next with
        | none => refuse .missingFlagEnd
        | some [d] =>
            if d = ')' || d = '-' || d = ':' then return (c :: on, d)
            else if isFlag d then flagsOn fuel (c :: on) d
            else refuseFlag .missingFlagEnd [d]
        | some t => refuseFlag .missingFlagEnd t

/-- Flags that are turned off, from the flag `c` on, which has been taken. -/
def flagsOff : (fuel : Nat) → (off : Text) → (c : Char) → Parse Text
  | 0, _, _ => refuse .missingColon
  | fuel + 1, off, c => do
      if isTypeFlag c then refuse .typeFlagOff
      else
        match ← next with
        | none => refuse .missingColon
        | some [d] =>
            if d = ':' then return c :: off
            else if isFlag d then flagsOff fuel (c :: off) d
            else refuseFlag .missingColon [d]
        | some t => refuseFlag .missingColon t

/-- The flags inside a group, given those outside and those that it turns on and off. -/
def Flags.change (f : Flags) (on off : Text) : Flags where
  ignoreCase := (f.ignoreCase || on.contains 'i') && !off.contains 'i'
  ascii := if on.contains 'a' then true else if on.contains 'u' then false else f.ascii
  dotAll := (f.dotAll || on.contains 's') && !off.contains 's'
  multiline := (f.multiline || on.contains 'm') && !off.contains 'm'
  verbose := (f.verbose || on.contains 'x') && !off.contains 'x'

def flagsAfterMinus : Parse Text := do
  match ← next with
  | none => refuse .missingFlag
  | some [c] =>
      if isFlag c then flagsOff ((← get).rest.length + 1) [] c else refuseFlag .missingFlag [c]
  | some t => refuseFlag .missingFlag t

/-- The flags of a group that opens at `start`, from `c` on, which has been taken: a flag or a
minus sign. Flags for the whole expression come too late. -/
def groupFlags (f : Flags) (start : Nat) (c : Char) : Parse Flags := do
  let fuel := (← get).rest.length + 1
  let (on, ended) ← (if c = '-' then return ([], '-') else flagsOn fuel [] c : Parse (Text × Char))
  if ended = ')' then refuseAt start .lateFlags
  else if on.contains 't' then refuseBack 1 .globalFlagOn
  else
    let off ← (if ended = '-' then flagsAfterMinus else return [] : Parse Text)
    if off.contains 't' then refuseBack 1 .globalFlagOff
    else if on.any off.contains then refuseBack 1 .flagOnAndOff
    else return f.change on off

/-! ### Groups -/

def isGroupName (name : Text) : Bool :=
  match name with
  | [] => false
  | c :: t =>
      (isLetter c || c == '_') &&
        t.all fun c => isLetter c || c == '_' || Ranges.has c.toNat digitRanges

def groupName (terminator : Char) : Parse Text := do
  let name ← nameUpTo terminator "group name"
  if isGroupName name then return name else refuseBack (name.length + 1) (.badGroupName name)

/-- Opens a group, with a name if it has one, and returns its number. -/
def openGroup (name : Option Text) : Parse Nat := do
  let p ← get
  let n := p.widths.length + 1
  match name with
  | none => set { p with widths := p.widths ++ [none] }
  | some name =>
      match p.names.lookup name with
      | some earlier => refuseBack (name.length + 1) (.nameTaken name n earlier)
      | none =>
          set { p with widths := p.widths ++ [none], names := (name, n) :: p.names }
  return n

def closeGroup (n : Nat) (a : Regex) : Parse Unit :=
  modify fun p => { p with widths := p.widths.set (n - 1) (some a.width) }

def close (start : Nat) : Parse Unit := do
  if ← accept ')' then return () else refuseAt start .unterminatedGroup

def skipComment (start : Nat) : (fuel : Nat) → Parse Unit
  | 0 => refuseAt start .unterminatedComment
  | fuel + 1 => do
      match ← next with
      | none => refuseAt start .unterminatedComment
      | some t => if t = [')'] then return () else skipComment start fuel

def skipLine : (fuel : Nat) → Parse Unit
  | 0 => return ()
  | fuel + 1 => do
      match ← next with
      | none => return ()
      | some t => if t = ['\n'] then return () else skipLine fuel

/-- The number that the condition of a group names: digits of any script, perhaps with single
underscores between them, a sign before them and blanks around them; none if it names no number
or one below zero. -/
def conditionNumber? (name : Text) : Option Nat :=
  let (negative, t) := match name.trim with
    | '-' :: t => (true, t)
    | '+' :: t => (false, t)
    | t => (false, t)
  ((Number.joinGroups t).mapM digitValue?).bind fun ds =>
    let n := ds.foldl (fun n d => 10 * n + d) 0
    if ds.isEmpty || Number.maxLength < ds.length || (negative && n != 0) then none else some n

def maxGroup : Nat := Nat.pow 2 30 - 1

/-- Takes the condition of a group, up to its closing parenthesis. -/
def condition : Parse Nat := do
  let name ← nameUpTo ')' "group name"
  let back := name.length + 1
  let n ←
    if isGroupName name then
      match (← get).names.lookup name with
      | none => refuseBack back (.unknownGroupName name)
      | some n => pure n
    else
      match conditionNumber? name with
      | none => refuseBack back (.badGroupName name)
      | some 0 => refuseBack back .badGroupNumber
      | some n =>
          if maxGroup ≤ n then refuseBack back (.unknownGroup n)
          else
            let p ← get
            if (p.conditions.lookup n).isNone then
              set { p with conditions := p.conditions ++ [(n, p.position - back)] }
            pure n
  checkLookbehind n
  return n

def namedReference (f : Flags) : Parse Regex := do
  let name ← groupName ')'
  match (← get).names.lookup name with
  | none => refuseBack (name.length + 1) (.unknownGroupName name)
  | some n => reference f n (name.length + 1)

inductive Opening where
  | capture (name : Option Text)
  | plain (f : Flags)
  | atomic
  | look (negated : Bool)
  | lookBehind (negated : Bool)
  | condition
  | reference
  | comment

/-- Takes what opens after a parenthesis, a question mark and the letter P. -/
def namedOpening : Parse Opening := do
  match ← next with
  | none => refuse .endOfPattern
  | some ['<'] => return .capture (some (← groupName '>'))
  | some ['='] => return .reference
  | some t => refuseBack (t.length + 2) (.unknownExtension ('P' :: t))

/-- Takes what opens after a parenthesis, a question mark and a less-than sign. -/
def behindOpening : Parse Opening := do
  match ← next with
  | none => refuse .endOfPattern
  | some ['='] => return .lookBehind false
  | some ['!'] => return .lookBehind true
  | some t => refuseBack (t.length + 2) (.unknownExtension ('<' :: t))

/-- Takes what opens after a parenthesis at `start` and a question mark. -/
def specialOpening (f : Flags) (start : Nat) : Parse Opening := do
  match ← next with
  | none => refuse .endOfPattern
  | some ['P'] => namedOpening
  | some [':'] => return .plain f
  | some ['#'] => return .comment
  | some ['='] => return .look false
  | some ['!'] => return .look true
  | some ['<'] => behindOpening
  | some ['('] => return .condition
  | some ['>'] => return .atomic
  | some [c] =>
      if isFlag c || c = '-' then return .plain (← groupFlags f start c)
      else refuseBack 2 (.unknownExtension [c])
  | some t => refuseBack (t.length + 1) (.unknownExtension t)

def opening (f : Flags) (start : Nat) : Parse Opening := do
  if ← accept '?' then specialOpening f start else return .capture none

end Notebase.Regex
