import Notebase.Text.Basic

/-!
Filter predicates and how they are written. A value stands inside a double-quoted string of the
expression, and an expression with a double quote stands inside single quotes in the document.
-/

namespace Notebase.Document

/-- A value as it stands inside a double-quoted string: a backslash or a double quote has a
backslash before it. -/
def escape (value : Text) : Text :=
  value.flatMap fun c => if c = '\\' || c = '"' then ['\\', c] else [c]

/-- The start of a predicate that tests the file, up to its argument. -/
def callFront (test : Text) : Text := "file.".toList ++ test ++ "(\"".toList

-- Stated by hand: the equation that would be made for it is found by unfolding its texts.
theorem callFront_def (test : Text) : callFront test = "file.".toList ++ test ++ "(\"".toList := rfl

def filePredicate (test value : Text) : Text := callFront test ++ escape value ++ "\")".toList

def doubleQuotes (t : Text) : Text := t.replaceChar '\'' ['\'', '\'']

def singleQuoted (t : Text) : Text := '\'' :: doubleQuotes t ++ ['\'']

/-- A predicate as a list item: inside single quotes if it has a double quote. -/
def quotePredicate (expression : Text) : Text :=
  if expression.contains '"' then singleQuoted expression else expression

/-- A name inside double quotes; only the double quotes in it are escaped. -/
def quotedName (name : Text) : Text := '"' :: name.replaceChar '"' ['\\', '"'] ++ ['"']

end Notebase.Document
