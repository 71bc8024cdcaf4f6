import Notebase.Text.Case
import Notebase.Text.WordChar

/-!
Classes of characters in a regular expression. A class is a list of codes, ranges and categories;
what it says about a character depends on whether letter case counts and on whether the
categories are those of ASCII or of every script.
-/

namespace Notebase.Regex

/-! ### Flags -/

/-- What an expression takes into account: whether letter case is ignored, whether categories and
case stop at ASCII, whether a dot stands for line ends too, whether every line has a start and an
end, and whether the expression is laid out with blanks and comments. -/
structure Flags where
  ignoreCase : Bool := false
  ascii : Bool := false
  dotAll : Bool := false
  multiline : Bool := false
  verbose : Bool := false
deriving DecidableEq, Repr

def Flags.lower (f : Flags) (c : Char) : Char := if f.ascii then c.toLower else lowerChar c

def Flags.isCased (f : Flags) (c : Char) : Bool := if f.ascii then c.isAlpha else Notebase.isCased c

/-- The small letters that count as a character when case is ignored. -/
def Flags.forms (f : Flags) (c : Char) : List Char :=
  if f.ascii then [c.toLower] else caseForms c

/-! ### Categories -/

def digitRanges : Ranges := [
  (0x30, 0x39), (0x660, 0x669), (0x6F0, 0x6F9), (0x7C0, 0x7C9), (0x966, 0x96F),
  (0x9E6, 0x9EF), (0xA66, 0xA6F), (0xAE6, 0xAEF), (0xB66, 0xB6F), (0xBE6, 0xBEF),
  (0xC66, 0xC6F), (0xCE6, 0xCEF), (0xD66, 0xD6F), (0xDE6, 0xDEF), (0xE50, 0xE59),
  (0xED0, 0xED9), (0xF20, 0xF29), (0x1040, 0x1049), (0x1090, 0x1099), (0x17E0, 0x17E9),
  (0x1810, 0x1819), (0x1946, 0x194F), (0x19D0, 0x19D9), (0x1A80, 0x1A89), (0x1A90, 0x1A99),
  (0x1B50, 0x1B59), (0x1BB0, 0x1BB9), (0x1C40, 0x1C49), (0x1C50, 0x1C59), (0xA620, 0xA629),
  (0xA8D0, 0xA8D9), (0xA900, 0xA909), (0xA9D0, 0xA9D9), (0xA9F0, 0xA9F9), (0xAA50, 0xAA59),
  (0xABF0, 0xABF9), (0xFF10, 0xFF19), (0x104A0, 0x104A9), (0x10D30, 0x10D39),
  (0x11066, 0x1106F), (0x110F0, 0x110F9), (0x11136, 0x1113F), (0x111D0, 0x111D9),
  (0x112F0, 0x112F9), (0x11450, 0x11459), (0x114D0, 0x114D9), (0x11650, 0x11659),
  (0x116C0, 0x116C9), (0x11730, 0x11739), (0x118E0, 0x118E9), (0x11950, 0x11959),
  (0x11C50, 0x11C59), (0x11D50, 0x11D59), (0x11DA0, 0x11DA9), (0x16A60, 0x16A69),
  (0x16AC0, 0x16AC9), (0x16B50, 0x16B59), (0x1D7CE, 0x1D7FF), (0x1E140, 0x1E149),
  (0x1E2F0, 0x1E2F9), (0x1E950, 0x1E959), (0x1FBF0, 0x1FBF9)]

/-- The value of a decimal digit of any script. Every range of digits starts with a zero. -/
def digitValue? (c : Char) : Option Nat :=
  (digitRanges.find? fun (first, last) => first ≤ c.toNat && c.toNat ≤ last).map fun (first, _) =>
    (c.toNat - first) % 10

inductive Category where
  | digit
  | space
  | word
deriving DecidableEq, Repr

def Category.has (ascii : Bool) (c : Char) : Category → Bool
  | .digit => if ascii then c.isDigit else Ranges.has c.toNat digitRanges
  | .space => if ascii then Ranges.has c.toNat [(0x9, 0xD), (0x20, 0x20)] else isBlank c
  | .word => if ascii then c.isAlphanum || c == '_' else isWordChar c

/-! ### Classes -/

/-- A part of a class: a code, a range of codes, or a category or all characters outside it. -/
inductive ClassItem where
  | code (n : Nat)
  | range (first last : Nat)
  | category (c : Category) (outside : Bool)
deriving DecidableEq, Repr

namespace ClassItem

def has (ascii : Bool) (c : Char) : ClassItem → Bool
  | .code n => c.toNat == n
  | .range first last => first ≤ c.toNat && c.toNat ≤ last
  | .category k outside => k.has ascii c != outside

def codes : ClassItem → List Nat
  | .code n => [n]
  | .range first last => List.range' first (last + 1 - first)
  | .category _ _ => []

/-- Whether case makes a difference to a part. It is taken to make one beyond the first plane. -/
def isCased (f : Flags) (i : ClassItem) : Bool :=
  i.codes.any fun n => 0x10000 ≤ n || f.isCased (Char.ofNat n)

/-- Whether a small letter is in a part when case is ignored. -/
def hasFolded (f : Flags) (c : Char) (i : ClassItem) : Bool :=
  match i with
  | .category k outside => k.has f.ascii c != outside
  | i => i.codes.any fun n => n.isValidChar && (f.forms (Char.ofNat n)).contains c

end ClassItem

/-- Whether a character is in a class, or outside it if the class is negated. -/
def classHas (f : Flags) (negated : Bool) (items : List ClassItem) (c : Char) : Bool :=
  let found :=
    if f.ignoreCase && items.any (·.isCased f) then items.any (·.hasFolded f (f.lower c))
    else items.any (·.has f.ascii c)
  found != negated

end Notebase.Regex
