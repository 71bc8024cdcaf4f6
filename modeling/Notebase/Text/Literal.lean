import Notebase.Text.Basic
import Notebase.Text.Printable

/-!
Texts as literals. A literal shows a text between quotation marks, so that its ends can be seen,
and shows what cannot be printed as an escape. It stands between single quotes, unless the text
has a single quote and no double quote.
-/

namespace Notebase.Text

/-- The digits of a number to the base sixteen, with zeros in front up to a width. -/
def hex (width n : Nat) : Text :=
  let digits := Nat.toDigits 16 n
  List.replicate (width - digits.length) '0' ++ digits

def quoteMark (t : Text) : Char := if t.contains '\'' && !t.contains '"' then '"' else '\''

/-- A character inside a literal with this quotation mark. -/
def literalChar (mark c : Char) : Text :=
  if c = mark || c = '\\' then ['\\', c]
  else if c = '\t' then ['\\', 't']
  else if c = '\n' then ['\\', 'n']
  else if c = '\r' then ['\\', 'r']
  else if isPrintable c then [c]
  else if c.toNat < 0x100 then '\\' :: 'x' :: hex 2 c.toNat
  else if c.toNat < 0x10000 then '\\' :: 'u' :: hex 4 c.toNat
  else '\\' :: 'U' :: hex 8 c.toNat

def literal (t : Text) : Text :=
  let mark := quoteMark t
  mark :: t.flatMap (literalChar mark) ++ [mark]

def literalList (items : List Text) : Text :=
  '[' :: join ", ".toList (items.map literal) ++ [']']

end Notebase.Text
