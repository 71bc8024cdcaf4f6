import Notebase.Text.Case
import Notebase.Text.WordChar

/-!
Patterns of phrases, and where a text matches them.

A pattern is read from left to right: alternatives are tried in order, a greedy run takes as
much as it can and a lazy one as little, and a later failure gives characters back. `read` is
that reading with its continuation: it returns what the continuation makes of the first way to
read the pattern that the continuation accepts. The scans of a whole text (`find?`, `findAll`,
`pieces`, `replaceAll`) go from left to right and never look at a matched character twice.
-/

namespace Notebase

/-- What a piece of text has to look like. -/
inductive Pattern where
  /-- Nothing. -/
  | empty
  /-- One character of a class. -/
  | char (p : Char → Bool)
  /-- As many characters of a class as possible. -/
  | run (p : Char → Bool)
  /-- As few characters of a class as possible. -/
  | lazyRun (p : Char → Bool)
  /-- One pattern and then another. -/
  | seq (a b : Pattern)
  /-- The first pattern or else the second. -/
  | alt (a b : Pattern)
  /-- A pattern as often as possible. -/
  | star (a : Pattern)
  /-- A pattern whose text is the text that the match is about. -/
  | capture (a : Pattern)
  /-- A word character on one side only. -/
  | boundary
  /-- The end of the text. -/
  | atEnd
  /-- No character of a class stands before. -/
  | notAfter (p : Char → Bool)
  /-- The pattern follows. -/
  | ahead (a : Pattern)
  /-- The pattern does not follow. -/
  | notAhead (a : Pattern)

/-- A place reached in reading a text: the character before it, the text after it, how many
characters have been read, and the captured stretch as the text where it starts and its
length. -/
structure Reading where
  prev : Option Char
  rest : Text
  count : Nat
  captured : Option (Text × Nat)

namespace Reading

/-- The place after one more character. -/
def advance (s : Reading) (c : Char) (rest : Text) : Reading :=
  { s with prev := some c, rest := rest, count := s.count + 1 }

def atBoundary (s : Reading) : Bool :=
  (s.prev.any isWordChar) != (s.rest.head?.any isWordChar)

end Reading

namespace Pattern

/-! ### Reading a pattern -/

/-- Reads the longest run of the class whose continuation succeeds. -/
def readRun (p : Char → Bool) : Text → Reading → (Reading → Option Reading) → Option Reading
  | [], s, k => k s
  | c :: rest, s, k =>
      if p c then
        match readRun p rest (s.advance c rest) k with
        | some found => some found
        | none => k s
      else k s

/-- Reads the shortest run of the class whose continuation succeeds. -/
def readLazyRun (p : Char → Bool) : Text → Reading → (Reading → Option Reading) → Option Reading
  | [], s, k => k s
  | c :: rest, s, k =>
      match k s with
      | some found => some found
      | none => if p c then readLazyRun p rest (s.advance c rest) k else none

/-- Reads a pattern as often as possible, at most `limit` times and only while it moves on. -/
def readStar (step : Reading → (Reading → Option Reading) → Option Reading) :
    (limit : Nat) → Reading → (Reading → Option Reading) → Option Reading
  | 0, s, k => k s
  | limit + 1, s, k =>
      match step s fun s' => if s.count < s'.count then readStar step limit s' k else none with
      | some found => some found
      | none => k s

/-- The outcome of the first way to read the pattern that the continuation accepts. -/
def read : Pattern → Reading → (Reading → Option Reading) → Option Reading
  | .empty, s, k => k s
  | .char p, s, k =>
      match s.rest with
      | [] => none
      | c :: rest => if p c then k (s.advance c rest) else none
  | .run p, s, k => readRun p s.rest s k
  | .lazyRun p, s, k => readLazyRun p s.rest s k
  | .seq a b, s, k => a.read s fun s' => b.read s' k
  | .alt a b, s, k =>
      match a.read s k with
      | some found => some found
      | none => b.read s k
  | .star a, s, k => readStar a.read s.rest.length s k
  | .capture a, s, k =>
      a.read s fun s' => k { s' with captured := some (s.rest, s'.count - s.count) }
  | .boundary, s, k => if s.atBoundary then k s else none
  | .atEnd, s, k => if s.rest.isEmpty then k s else none
  | .notAfter p, s, k => if s.prev.any p then none else k s
  | .ahead a, s, k => if (a.read s some).isSome then k s else none
  | .notAhead a, s, k => if (a.read s some).isSome then none else k s

/-! ### Matches in a text -/

/-- A match: how long it is, what it is about, and the text that follows it. -/
structure Match where
  length : Nat
  subject : Text
  rest : Text

def matchAt? (p : Pattern) (prev : Option Char) (t : Text) : Option Match :=
  (p.read ⟨prev, t, 0, none⟩ some).map fun s =>
    ⟨s.count, (s.captured.map fun (start, n) => start.take n).getD [], s.rest⟩

def findFrom? (p : Pattern) : (prev : Option Char) → Text → Option (Text × Match)
  | prev, [] => (p.matchAt? prev []).map fun m => ([], m)
  | prev, c :: rest =>
      match p.matchAt? prev (c :: rest) with
      | some m => some ([], m)
      | none => (findFrom? p (some c) rest).map fun (before, m) => (c :: before, m)

def find? (p : Pattern) (t : Text) : Option (Text × Match) := p.findFrom? none t

def occursIn (p : Pattern) (t : Text) : Bool := (p.find? t).isSome

/-- The matches from left to right, after `skip` characters that belong to the last one. -/
def findAllFrom (p : Pattern) : (skip : Nat) → (prev : Option Char) → Text → List Match
  | 0, prev, [] => (p.matchAt? prev []).toList
  | _ + 1, _, [] => []
  | skip + 1, _, c :: rest => findAllFrom p skip (some c) rest
  | 0, prev, c :: rest =>
      match p.matchAt? prev (c :: rest) with
      | some m => m :: findAllFrom p (m.length - 1) (some c) rest
      | none => findAllFrom p 0 (some c) rest

/-- The matches from left to right; none overlaps the one before it. -/
def findAll (p : Pattern) (t : Text) : List Match := p.findAllFrom 0 none t

/-- The pieces between matches, after `skip` characters of the last one. -/
def piecesFrom (p : Pattern) : (skip : Nat) → (prev : Option Char) → Text → List Text
  | _, _, [] => [[]]
  | skip + 1, _, c :: rest => piecesFrom p skip (some c) rest
  | 0, prev, c :: rest =>
      match p.matchAt? prev (c :: rest) with
      | some m => [] :: piecesFrom p (m.length - 1) (some c) rest
      | none =>
          match piecesFrom p 0 (some c) rest with
          | [] => [[c]]
          | piece :: more => (c :: piece) :: more

def pieces (p : Pattern) (t : Text) : List Text := p.piecesFrom 0 none t

def textBefore (p : Pattern) (t : Text) : Text :=
  match p.find? t with
  | some (before, _) => before
  | none => t

def replaceAll (p : Pattern) (new t : Text) : Text := new.intercalate (p.pieces t)

/-! ### Building patterns -/

/-- The first of several patterns that fits; with none given, nothing. -/
def oneOf : List Pattern → Pattern
  | [] => .empty
  | [p] => p
  | p :: q :: rest => .alt p (oneOf (q :: rest))

def inOrder : List Pattern → Pattern
  | [] => .empty
  | [p] => p
  | p :: q :: rest => .seq p (inOrder (q :: rest))

def opt (p : Pattern) : Pattern := .alt p .empty

/-- At least one character of a class, as many as possible. -/
def run1 (p : Char → Bool) : Pattern := .seq (.char p) (.run p)

/-- At least one character of a class, as few as possible. -/
def lazyRun1 (p : Char → Bool) : Pattern := .seq (.char p) (.lazyRun p)

def exactly (c : Char) : Pattern := .char (· == c)

def letter (c : Char) : Pattern :=
  if isCased c then
    let forms := caseForms c
    .char fun x => forms.contains (lowerChar x)
  else exactly c

def letters (t : Text) : Pattern := inOrder (t.map letter)

def word (w : String) : Pattern := letters w.toList

def words (ws : List String) : Pattern := oneOf (ws.map word)

def blanks : Pattern := run1 isBlank

end Pattern

end Notebase
