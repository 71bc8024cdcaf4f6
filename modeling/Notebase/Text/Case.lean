import Notebase.Text.Basic
import Notebase.Text.CaseTable

/-!
Letter case. A whole text is lowered and raised by the full mappings of Unicode, where one
letter may become several and a capital sigma at the end of a word gets its final shape. Two
letters are compared without regard to case by the one-to-one mappings alone.
-/

namespace Notebase

/-! ### One letter -/

def lowerChar (c : Char) : Char := Char.ofNat (CaseRun.image c.toNat lowerRuns)

/-- The capital of a letter, which may be several characters. -/
def upperChar (c : Char) : Text :=
  match longCapitals.lookup c.toNat with
  | some capital => capital.map Char.ofNat
  | none => [Char.ofNat (CaseRun.image c.toNat upperRuns)]

/-- The lower-case letters that a text may show where the letter `c` is asked for without
regard to case. A character without case asks for itself alone. -/
def caseForms (c : Char) : List Char :=
  let low := lowerChar c
  low :: ((caseSiblings.lookup low.toNat).getD []).map Char.ofNat

def isCased (c : Char) : Bool := Ranges.has c.toNat casedRanges

/-! ### Whole texts -/

namespace Text

/-- Whether a capital sigma between these characters ends a word: a letter with case comes
before it and none follows. The characters before it are listed backwards. -/
def endsWordAt (backwards forwards : Text) : Bool :=
  let ignored := fun c : Char => Ranges.has c.toNat sigmaIgnoredRanges
  let cased := fun c : Char => Ranges.has c.toNat sigmaCasedRanges
  match backwards.dropWhile ignored with
  | [] => false
  | b :: _ =>
      cased b &&
        match forwards.dropWhile ignored with
        | [] => true
        | f :: _ => !cased f

/-- Lowers a text that follows the given characters, which are listed backwards. -/
def lowerAfter (backwards : Text) : Text → Text
  | [] => []
  | c :: t =>
      let low : Text :=
        if c = 'Σ' then [if endsWordAt backwards t then 'ς' else 'σ']
        else if c = 'İ' then ['i', '\u0307']
        else [lowerChar c]
      low ++ lowerAfter (c :: backwards) t

def lower (t : Text) : Text := lowerAfter [] t

def upper (t : Text) : Text := t.flatMap upperChar

end Text

end Notebase
