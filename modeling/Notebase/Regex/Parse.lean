import Notebase.Regex.Group

/-!
Reading regular expressions. Alternatives bind weakest, then sequences, then repetitions. A
construct that is cut off or that makes no sense is refused with its place, and so is an
expression that has to stand before a place but has no single width.
-/

namespace Notebase.Regex

/-! ### Items of a sequence -/

/-- What an item is for a repetition after it: a place, a repetition, or something that may be
repeated. -/
inductive Kind where
  | place
  | repetition
  | other
deriving DecidableEq, Repr

structure Item where
  kind : Kind
  regex : Regex

def Item.of (a : Regex) : Item := ⟨.other, a⟩

def Item.place (p : Place) : Item := ⟨.place, .place p⟩

/-- The start of a line, or of the text if lines are not told apart. -/
def Flags.start (f : Flags) : Place := if f.multiline then .lineStart else .textStart

/-- The end of a line, or of the text if lines are not told apart. -/
def Flags.finish (f : Flags) : Place := if f.multiline then .lineEnd else .textEnd

/-- An escape that starts with a digit other than zero: three digits to the base eight, or the
number of a group. -/
def digitEscape (f : Flags) (c : Char) : Parse Regex := do
  let second ← takeWhile Char.isDigit 1
  let third ← takeWhile isOctalDigit (if isOctalDigit c && second.any isOctalDigit then 1 else 0)
  if third.isEmpty then
    let ds := c :: second
    let n := Number.ofDigits ds
    if n ≤ (← get).widths.length then reference f n (ds.length + 1)
    else refuseBack ds.length (.unknownGroup n)
  else return literal f (← octalEscape (c :: second ++ third))

def escapeItem (f : Flags) (c : Char) : Parse Item := do
  match c with
  | 'A' => return .place .textStart
  | 'Z' => return .place .lastEnd
  | 'b' => return .place (.wordEdge f.ascii)
  | 'B' => return .place (.noWordEdge f.ascii)
  | '0' => return .of (literal f (valueOf 8 (← takeWhile isOctalDigit 2)))
  | c =>
      match categoryEscape? c, controlEscape? c with
      | some item, _ => return .of (.char (classHas f false [item]))
      | none, some n => return .of (literal f n)
      | none, none =>
          match ← commonEscape? c with
          | some n => return .of (literal f n)
          | none =>
              if c.isDigit then return .of (← digitEscape f c)
              else return .of (literal f (← plainEscape c))

/-! ### Repetitions -/

def noLimit : Nat := Nat.pow 2 32 - 1

def bound (ds : Text) : Parse Nat :=
  let n := Number.ofDigits ds
  if noLimit ≤ n then throw ⟨.tooOften, none⟩ else return n

/-- The bounds of a repetition after an opening brace; none if the brace opens no bounds. -/
def bounds? : Parse (Option (Nat × Option Nat)) := do
  let start ← get
  if (← peek) = some ['\x7d'] then return none
  let all := start.rest.length
  let least ← takeWhile Char.isDigit all
  let comma ← accept ','
  let most ← (if comma then takeWhile Char.isDigit all else return least : Parse Text)
  if ← accept '\x7d' then
    let lo ← bound least
    if most.isEmpty then return some (lo, none)
    else
      let hi ← bound most
      if hi < lo then refuseAt start.position .leastBeyondMost else return some (lo, some hi)
  else
    set start
    return none

/-- Takes what tells how a repetition goes on. -/
def greed : Parse Greed := do
  match ← peek with
  | some ['?'] => next *> return .lazy
  | some ['+'] => next *> return .possessive
  | _ => return .greedy

/-- The last item repeated, by a sign that has been taken. -/
def repetition (least : Nat) (most : Option Nat) (start : Nat) : List Item → Parse (List Item)
  | [] => refuseAt start .nothingToRepeat
  | item :: items => do
      match item.kind with
      | .place => refuseAt start .nothingToRepeat
      | .repetition => refuseAt start .repeatedTwice
      | .other =>
          return ⟨.repetition, .repeated (← greed) least most item.regex⟩ :: items

/-! ### Expressions -/

/-- Reads the second branch of a condition, if there is one; there is no third. -/
def secondBranch (sequence : Parse Regex) : Parse Regex := do
  if ← accept '|' then
    let b ← sequence
    if (← peek) = some ['|'] then refuse .tooManyBranches else return b
  else return .empty

/-- Reads a group with its own way to read what is inside: `alternatives` and `sequence`. What
opens at `start` has been taken; a comment is no item. -/
def groupItem (f : Flags) (start : Nat) (alternatives sequence : Flags → Parse Regex) :
    Opening → Parse (Option Item)
  | .comment => do
      skipComment start ((← get).rest.length + 1)
      return none
  | .reference => do return some (.of (← namedReference f))
  | .look negated => do
      let a ← alternatives f
      close start
      return some (.of (.ahead negated a))
  | .lookBehind negated => do
      let before := (← get).behind
      modify fun p => { p with behind := some (before.getD (p.widths.length + 1)) }
      let a ← alternatives f
      modify fun p => { p with behind := before }
      close start
      return some (.of (.behind negated a))
  | .condition => do
      let n ← condition
      let a ← sequence f
      let b ← secondBranch (sequence f)
      close start
      return some (.of (.given n a b))
  | .atomic => do
      let a ← alternatives f
      close start
      return some (.of (.atomic a))
  | .plain inner => do
      let a ← alternatives inner
      close start
      return some (.of a)
  | .capture name => do
      let n ← openGroup name
      let a ← alternatives f
      close start
      closeGroup n a
      return some (.of (.group n a))

/-- Reads on in a sequence; `items` are those so far, the last one first. What is inside a group is
read by `alternatives`, and the rest of a sequence by `sequence`. A token of two characters is an
escape. -/
def sequenceStep (f : Flags) (items : List Item) (alternatives : Flags → Parse Regex)
    (sequence : Flags → List Item → Parse Regex) : Parse Regex := do
  let finished := ofList (items.reverse.map Item.regex)
  let some t ← peek | return finished
  if t = ['|'] || t = [')'] then return finished
  let _ ← next
  let here ← position
  let repeated := fun (least : Nat) (most : Option Nat) => do
    sequence f (← repetition least most (here - 1) items)
  match t with
  | [_, c] => sequence f ((← escapeItem f c) :: items)
  | [c] =>
      if c = '[' then sequence f (.of (← characterClass f) :: items)
      else if c = '?' then repeated 0 (some 1)
      else if c = '*' then repeated 0 none
      else if c = '+' then repeated 1 none
      else if c = '\x7b' then
        match ← bounds? with
        | some (least, most) => repeated least most
        | none => sequence f (.of (literal f c.toNat) :: items)
      else if c = '.' then sequence f (.of (.char fun c => f.dotAll || c != '\n') :: items)
      else if c = '(' then
        let item ← groupItem f (here - 1) alternatives (sequence · []) (← opening f (here - 1))
        sequence f (item.toList ++ items)
      else if c = '^' then sequence f (.place f.start :: items)
      else if c = '$' then sequence f (.place f.finish :: items)
      else if f.verbose && Category.has true c .space then sequence f items
      else if f.verbose && c = '#' then
        skipLine ((← get).rest.length + 1)
        sequence f items
      else sequence f (.of (literal f c.toNat) :: items)
  | _ => refuse .unbalanced

mutual

def alternatives : (fuel : Nat) → Flags → Parse Regex
  | 0, _ => refuse .unbalanced
  | fuel + 1, f => do
      let a ← sequence fuel f []
      if ← accept '|' then return .alt a (← alternatives fuel f) else return a

/-- Reads a sequence; `items` are those so far, the last one first. -/
def sequence : (fuel : Nat) → Flags → (items : List Item) → Parse Regex
  | 0, _, _ => refuse .unbalanced
  | fuel + 1, f, items => sequenceStep f items (alternatives fuel) (sequence fuel)

end

/-- The fault of an expression that has to stand before a place but has no single width, or too
great a one. -/
def widthFault? (a : Regex) : Option Fault :=
  let (least, most) := a.width
  if noLimit < least then some ⟨.looksTooFarBack, none⟩
  else if least = most then none
  else some ⟨.variableLookbehind, none⟩

def whole : Parse Regex := do
  checkEnd
  let a ← alternatives (2 * (← get).rest.length + 2) {}
  let p ← get
  if !p.rest.isEmpty then refuse .unbalanced
  else
    match p.conditions.find? fun (n, _) => p.widths.length < n with
    | some (n, referred) => refuseAt referred (.unknownGroup n)
    | none => return a

def parse (pattern : Text) : Except Error Regex :=
  match whole.run' { rest := pattern } with
  | .error fault => .error ⟨pattern, fault⟩
  | .ok a =>
      match a.behinds.findSome? widthFault? with
      | some fault => .error ⟨pattern, fault⟩
      | none => .ok a

end Notebase.Regex
