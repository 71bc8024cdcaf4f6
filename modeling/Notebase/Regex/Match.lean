import Notebase.Regex.Basic

/-!
Matching regular expressions. `read` reads an expression from left to right with what comes after
it as a continuation: alternatives are tried in order, a greedy repetition goes on as long as it
can and falls back, a lazy one goes on only when what comes after it fails. A repetition does not
go on from the place where its last round started, so a round that takes up nothing is the last.
-/

namespace Notebase.Regex

/-! ### States -/

/-- A place reached in reading a text: the characters before it, the last one first, the text
after it, how many characters stand before it, and where the groups started and stopped, the
latest first. -/
structure State where
  back : Text
  rest : Text
  position : Nat
  starts : List (Nat × Nat) := []
  stops : List (Nat × Nat) := []
deriving DecidableEq, Repr

namespace State

def advance (s : State) (c : Char) (rest : Text) : State :=
  { s with back := c :: s.back, rest := rest, position := s.position + 1 }

def retreat (s : State) (n : Nat) : State :=
  { s with back := s.back.drop n, rest := (s.back.take n).reverse ++ s.rest,
           position := s.position - n }

def withGroups (s other : State) : State := { s with starts := other.starts, stops := other.stops }

/-- Where a group starts and stops, if it has been read. -/
def group? (s : State) (n : Nat) : Option (Nat × Nat) :=
  match s.starts.lookup n, s.stops.lookup n with
  | some start, some stop => if start ≤ stop then some (start, stop) else none
  | _, _ => none

def between (s : State) (start stop : Nat) : Text :=
  ((s.back.reverse ++ s.rest).drop start).take (stop - start)

def atWordEdge (s : State) (ascii : Bool) : Bool :=
  let word := fun c => Category.has ascii c .word
  s.back.head?.any word != s.rest.head?.any word

/-- Whether a place is of a certain kind. In a text without characters no place is inside or
outside a word. -/
def isAt (s : State) : Place → Bool
  | .textStart => s.back.isEmpty
  | .lineStart => s.back.head?.all (· == '\n')
  | .textEnd => s.rest.isEmpty || s.rest == ['\n']
  | .lineEnd => s.rest.head?.all (· == '\n')
  | .lastEnd => s.rest.isEmpty
  | .wordEdge ascii => s.atWordEdge ascii
  | .noWordEdge ascii => !(s.back.isEmpty && s.rest.isEmpty) && !s.atWordEdge ascii

/-- The place after a text, where `fold` makes characters count as one. -/
def after? (fold : Char → Char) (s : State) : Text → Option State
  | [] => some s
  | c :: t =>
      match s.rest with
      | [] => none
      | d :: rest => if fold c = fold d then after? fold (s.advance d rest) t else none

end State

/-! ### Reading -/

/-- A way to read a part: the outcome of the first reading that the continuation accepts. -/
abbrev Step := State → (State → Option State) → Option State

/-- Whether a repetition may go on after `count` rounds, from a place other than the one where
the last of them started. -/
def mayGoOn (most : Option Nat) (count : Nat) (last : Option Nat) (s : State) : Bool :=
  most.all (count < ·) && last != some s.position

/-- Reads a repetition that goes on as long as it can. -/
def readGreedy (step : Step) (least : Nat) (most : Option Nat) :
    (fuel count : Nat) → (last : Option Nat) → Step
  | 0, _, _, _, _ => none
  | fuel + 1, count, last, s, k =>
      if count < least then
        step s fun s' => readGreedy step least most fuel (count + 1) last s' k
      else if mayGoOn most count last s then
        match step s fun s' => readGreedy step least most fuel (count + 1) (some s.position) s' k with
        | some found => some found
        | none => k s
      else k s

/-- Reads a repetition that goes on only when what comes after it fails. -/
def readLazy (step : Step) (least : Nat) (most : Option Nat) :
    (fuel count : Nat) → (last : Option Nat) → Step
  | 0, _, _, _, _ => none
  | fuel + 1, count, last, s, k =>
      if count < least then
        step s fun s' => readLazy step least most fuel (count + 1) last s' k
      else
        match k s with
        | some found => some found
        | none =>
            if mayGoOn most count last s then
              step s fun s' => readLazy step least most fuel (count + 1) (some s.position) s' k
            else none

/-- The end of a repetition in which every round is read in the first way possible. -/
def runPossessive (step : Step) (least : Nat) (most : Option Nat) :
    (fuel count : Nat) → (last : Option Nat) → State → Option State
  | 0, _, _, _ => none
  | fuel + 1, count, last, s =>
      if count < least then
        (step s some).bind fun s' => runPossessive step least most fuel (count + 1) last s'
      else if mayGoOn most count last s then
        match step s some with
        | some s' => runPossessive step least most fuel (count + 1) (some s.position) s'
        | none => some s
      else some s

/-- Reads an expression: the outcome of the first reading that the continuation accepts. -/
def read : Regex → Step
  | .empty, s, k => k s
  | .char p, s, k =>
      match s.rest with
      | [] => none
      | c :: rest => if p c then k (s.advance c rest) else none
  | .place p, s, k => if s.isAt p then k s else none
  | .seq a b, s, k => a.read s fun s' => b.read s' k
  | .alt a b, s, k =>
      match a.read s k with
      | some found => some found
      | none => b.read s k
  | .group n a, s, k =>
      a.read { s with starts := (n, s.position) :: s.starts } fun s' =>
        k { s' with stops := (n, s'.position) :: s'.stops }
  | .again n _ _ fold, s, k =>
      match s.group? n with
      | none => none
      | some (start, stop) => (s.after? fold (s.between start stop)).bind k
  | .repeated greed least most a, s, k =>
      let fuel := least + s.rest.length + 2
      match greed with
      | .greedy => readGreedy a.read least most fuel 0 none s k
      | .lazy => readLazy a.read least most fuel 0 none s k
      | .possessive => (runPossessive a.read least most fuel 0 none s).bind k
  | .atomic a, s, k => (a.read s some).bind k
  | .ahead negated a, s, k =>
      match a.read s some, negated with
      | some s', false => k (s.withGroups s')
      | none, true => k s
      | _, _ => none
  | .behind negated a, s, k =>
      let n := a.width.1
      let found? := if s.position < n then none else a.read (s.retreat n) some
      match found?, negated with
      | some s', false => k (s.withGroups s')
      | none, true => k s
      | _, _ => none
  | .given n a b, s, k => if (s.group? n).isSome then a.read s k else b.read s k

/-! ### Searching -/

def find? (a : Regex) : (rest : Text) → State → Option (State × State)
  | [], s => (a.read s some).map fun stop => (s, stop)
  | c :: rest, s =>
      match a.read s some with
      | some stop => some (s, stop)
      | none => find? a rest (s.advance c rest)

def search? (a : Regex) (before t : Text) : Option (State × State) :=
  a.find? t { back := before.reverse, rest := t, position := before.length }

end Notebase.Regex
