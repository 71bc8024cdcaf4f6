import Notebase.Document.View

/-!
Where the parts of a document stand, as positions that count characters from its start.
-/

namespace Notebase.Document

structure Span where
  start : Nat
  stop : Nat
deriving DecidableEq, Repr

/-- Where a key of the view stands: its line, its value on that line, and the end of the lines
under it. -/
structure KeySpan where
  start : Nat
  valueStart : Nat
  valueEnd : Nat
  stop : Nat
deriving DecidableEq, Repr

def Block.span (b : Block) : Span :=
  let start := b.before.flatten.length
  ⟨start, start + b.lines.flatten.length⟩

def View.span (v : View) : Span :=
  let start := v.before.flatten.length
  ⟨start, start + v.lines.flatten.length⟩

def View.keySpan (v : View) (k : Key) : KeySpan :=
  let start := v.before.flatten.length + k.before.flatten.length
  let valueStart := start + k.label.length
  let valueEnd := valueStart + k.value.length
  ⟨start, valueStart, valueEnd, valueEnd + k.ending.length + k.children.flatten.length⟩

/-! ### Keys with line ends

A key is looked for as it is written, so one with line ends in it stands on several lines. -/

/-- The first of these lines that, with those after it, has what `found?` looks for: where it
starts, when the lines start at `position`, and what is found. -/
def firstStart? {α : Type} (found? : Text → Option α) : (position : Nat) → List Text →
    Option (Nat × α)
  | _, [] => none
  | position, line :: rest =>
      match found? (line ++ rest.flatten) with
      | some a => some (position, a)
      | none => firstStart? found? (position + line.length) rest

def wideBlockSpan? (key t : Text) : Option Span :=
  (firstStart? (Text.after? (key ++ [':'])) 0 t.lines).map fun (start, rest) =>
    let below := Text.lines (Text.ending rest).tail
    ⟨start, t.length - (below.dropWhile (!isTopKey ·)).flatten.length⟩

def View.wideKeySpan? (v : View) (key : Text) : Option KeySpan :=
  (firstStart? (splitLabel? v.dash key) v.span.start v.lines).map fun (start, label, rest) =>
    let valueStart := start + label.length
    let valueEnd := valueStart + (Text.content rest).length
    let children := (Text.lines (Text.ending rest).tail).takeWhile (isDeeper v.indent)
    ⟨start, valueStart, valueEnd,
      valueEnd + ((Text.ending rest).take 1).length + children.flatten.length⟩

def blockSpan? (key t : Text) : Option Span :=
  if key.contains '\n' then wideBlockSpan? key t else (block? key t).map Block.span

def View.keySpan? (v : View) (key : Text) : Option KeySpan :=
  if key.contains '\n' then v.wideKeySpan? key else (v.key? key).map v.keySpan

/-! ### Lines from a position -/

def isLineStart (t : Text) (position : Nat) : Bool := (t.take position).getLast?.all (· == '\n')

/-- Where the lines deeper than `indent` that start at a position end, but no further than
`limit`. An indentation below zero admits every line with something written on it, and a
position below zero is the start of the text. -/
def childrenEnd (t : Text) (position limit indent : Int) : Int :=
  let deeper := fun line : Text =>
    match line.dropWhile (· == ' ') with
    | [] => false
    | c :: _ => !isBlank c && indent < Text.indentation line
  let start := position.toNat
  let children := if isLineStart t start then (Text.lines (t.drop start)).takeWhile deeper else []
  if children.isEmpty then min position limit
  else min (start + children.flatten.length) limit

end Notebase.Document
