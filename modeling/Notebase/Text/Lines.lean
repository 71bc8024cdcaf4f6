import Notebase.Text.Basic

/-!
A text as its lines. A document is read and edited by lines that keep their line end, so the
lines put together again are the text (`flatten_lines`). Values are also cut at every line break
that Unicode knows (`brokenLines`), and there the breaks are dropped.
-/

namespace Notebase.Text

/-! ### Lines that keep their end -/

/-- The lines of a text, each with its line end; the last one may have none. -/
def lines : Text → List Text
  | [] => []
  | c :: t =>
      if c = '\n' then [c] :: lines t
      else
        match lines t with
        | [] => [[c]]
        | line :: rest => (c :: line) :: rest

/-- The lines of a text are the text. -/
@[simp] theorem flatten_lines (t : Text) : (lines t).flatten = t := by
  induction t with
  | nil => rfl
  | cons c t ih =>
      unfold lines
      split
      · simp [ih]
      · split
        · next h => rw [h] at ih; simp at ih; simp [← ih]
        · next h => rw [h] at ih; simp [← ih]

def content (line : Text) : Text := line.takeWhile (· != '\n')

def ending (line : Text) : Text := line.dropWhile (· != '\n')

def terminated (t : Text) : Bool := t.getLast? == some '\n'

def indentation (line : Text) : Nat := (line.takeWhile (· == ' ')).length

def dropFinalNewlines (t : Text) : Text := dropEndWhile (· == '\n') t

/-- Appends a block of lines to a text that ends at a line boundary. Where that boundary is the
end of a last line without a line end, the line end moves in front of the block. -/
def appendLines (t block : Text) : Text :=
  if t.isEmpty || terminated t then t ++ block else t ++ '\n' :: dropFinalNewlines block

/-- The block that takes the place of `old` lines: without a line end where the old ones had
none. -/
def inPlaceOf (old block : Text) : Text :=
  if terminated old then block else dropFinalNewlines block

/-! ### Pieces between line breaks of any kind -/

def isLineBreak (c : Char) : Bool :=
  Ranges.has c.toNat
    [(0xA, 0xD), (0x1C, 0x1E), (0x85, 0x85), (0x2028, 0x2029)]

/-- The pieces of a text between its line breaks; a carriage return and the line feed after it
are one break, and a break at the end opens no further piece. -/
def brokenLines : Text → List Text
  | [] => []
  | '\r' :: '\n' :: t => [] :: brokenLines t
  | c :: t =>
      if isLineBreak c then [] :: brokenLines t
      else
        match brokenLines t with
        | [] => [[c]]
        | piece :: rest => (c :: piece) :: rest

end Notebase.Text
