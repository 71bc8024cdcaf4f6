import Notebase.Regex.Fault

/-!
How far the reading of a regular expression has come, and the steps that it is made of. An
expression is read token by token, where a backslash and the character after it are one token;
what makes no sense is refused with its place.
-/

namespace Notebase.Regex

/-! ### Progress -/

/-- How far the reading has come: the position, what is left, the widths of the groups so far
where they are closed, the names of groups, how many groups there were before the lookbehind that
is being read, and the numbers that conditions refer to with their places. -/
structure Progress where
  position : Nat := 0
  rest : Text
  widths : List (Option (Nat × Nat)) := []
  names : List (Text × Nat) := []
  behind : Option Nat := none
  conditions : List (Nat × Nat) := []

abbrev Parse (α : Type) := StateT Progress (Except Fault) α

def refuseAt {α : Type} (position : Nat) (cause : Cause) : Parse α :=
  throw ⟨cause, some position⟩

/-- Refuses the expression `back` characters before the position that has been reached. -/
def refuseBack {α : Type} (back : Nat) (cause : Cause) : Parse α := do
  refuseAt ((← get).position - back) cause

/-- Refuses the expression at the position that has been reached. -/
def refuse {α : Type} (cause : Cause) : Parse α := refuseBack 0 cause

def position : Parse Nat := return (← get).position

/-! ### Tokens -/

def token? : Text → Option Text
  | [] => none
  | '\\' :: c :: _ => some ['\\', c]
  | c :: _ => some [c]

/-- The next token, which is not taken. -/
def peek : Parse (Option Text) := return token? (← get).rest

def checkEnd : Parse Unit := do
  if (← get).rest = ['\\'] then refuse .loneBackslash

def next : Parse (Option Text) := do
  let p ← get
  match token? p.rest with
  | none => return none
  | some t =>
      set { p with position := p.position + t.length, rest := p.rest.drop t.length }
      checkEnd
      return some t

/-- Takes the next token if it is this character. -/
def accept (c : Char) : Parse Bool := do
  if (← peek) = some [c] then
    let _ ← next
    return true
  else return false

/-- Takes at most `most` characters of a class. -/
def takeWhile (p : Char → Bool) : (most : Nat) → Parse Text
  | 0 => return []
  | most + 1 => do
      match ← peek with
      | some [c] =>
          if p c then
            let _ ← next
            return c :: (← takeWhile p most)
          else return []
      | _ => return []

/-- Takes a name up to a terminator, which is taken too; `kind` is what the name is for. At most
`fuel` tokens are looked at. -/
def takeName (terminator : Char) (kind : String) : (fuel : Nat) → (name : Text) → Parse Text
  | 0, _ => refuse .endOfPattern
  | fuel + 1, name => do
      match ← next with
      | none =>
          if name.isEmpty then refuse (.missingName kind)
          else refuseBack name.length (.unterminatedName terminator)
      | some t =>
          if t = [terminator] then
            if name.isEmpty then refuseBack 1 (.missingName kind) else return name
          else takeName terminator kind fuel (name ++ t)

def nameUpTo (terminator : Char) (kind : String) : Parse Text := do
  takeName terminator kind ((← get).rest.length + 1) []

end Notebase.Regex
