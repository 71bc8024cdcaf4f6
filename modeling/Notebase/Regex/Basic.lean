import Notebase.Regex.Class

/-!
Regular expressions as trees. Characters are predicates, so the tree no longer knows the flags
that it was written under.
-/

namespace Notebase

namespace Regex

inductive Place where
  | textStart
  | lineStart
  | textEnd
  | lineEnd
  | lastEnd
  | wordEdge (ascii : Bool)
  | noWordEdge (ascii : Bool)
deriving DecidableEq, Repr

/-- How a repetition goes on: as often as possible or as rarely as possible, with the other
numbers to fall back on, or as often as possible once and for all. -/
inductive Greed where
  | greedy
  | lazy
  | possessive
deriving DecidableEq, Repr

end Regex

/-- A regular expression. -/
inductive Regex where
  /-- Nothing. -/
  | empty
  /-- One character of a class. -/
  | char (p : Char → Bool)
  /-- A place. -/
  | place (p : Regex.Place)
  /-- One expression and then another. -/
  | seq (a b : Regex)
  /-- The first expression or else the second. -/
  | alt (a b : Regex)
  /-- An expression whose text is remembered under a number. -/
  | group (n : Nat) (a : Regex)
  /-- The text remembered under a number again, where `fold` makes characters count as one. -/
  | again (n least most : Nat) (fold : Char → Char)
  /-- An expression at least `least` times, and at most `most` times if there is a limit. -/
  | repeated (greed : Regex.Greed) (least : Nat) (most : Option Nat) (a : Regex)
  /-- An expression that is read in the first way possible and in no other. -/
  | atomic (a : Regex)
  /-- The expression follows, or does not follow if negated. -/
  | ahead (negated : Bool) (a : Regex)
  /-- The expression stands before, or does not stand before if negated. -/
  | behind (negated : Bool) (a : Regex)
  /-- The first expression if a text is remembered under a number, or else the second. -/
  | given (n : Nat) (a b : Regex)

namespace Regex

def unlimited : Nat := Nat.pow 2 64

/-- The least and the greatest number of characters that an expression takes up. -/
def width : Regex → Nat × Nat
  | .empty | .place _ | .ahead _ _ | .behind _ _ => (0, 0)
  | .char _ => (1, 1)
  | .seq a b =>
      let (i, j) := a.width
      let (l, h) := b.width
      (min (i + l) unlimited, min (j + h) unlimited)
  | .alt a b | .given _ a b =>
      let (i, j) := a.width
      let (l, h) := b.width
      (min i l, max j h)
  | .group _ a | .atomic a => a.width
  | .again _ least most _ => (least, most)
  | .repeated _ least most a =>
      let (i, j) := a.width
      (min (i * least) unlimited,
        match most with
        | some n => min (j * n) unlimited
        | none => if j = 0 then 0 else unlimited)

def ofList : List Regex → Regex
  | [] => .empty
  | [a] => a
  | a :: b :: rest => .seq a (ofList (b :: rest))

/-- The expressions that have to stand before a place, outer ones first. -/
def behinds : Regex → List Regex
  | .empty | .char _ | .place _ | .again _ _ _ _ => []
  | .seq a b | .alt a b | .given _ a b => a.behinds ++ b.behinds
  | .group _ a | .repeated _ _ _ a | .atomic a | .ahead _ a => a.behinds
  | .behind _ a => a :: a.behinds

end Regex

end Notebase
