import Notebase.Document.Edit
import Notebase.Regex.Match
import Notebase.Regex.Parse

/-!
Filter predicates whose test is named by a regular expression. The first call of a test with such
a name gets the value; where none is found, the name is written as it stands.
-/

namespace Notebase.Document

/-- The expression for a call of a test whose name is a regular expression itself. The argument is
the first group, unless the name has groups. -/
def callPattern (test : Text) : Text :=
  "file\\.".toList ++ test ++ "\\(\"((?:[^\"\\\\]|\\\\.)*)\"\\)".toList

/-- The text with another one in the place of the first group of a match. A group that has no part
in the match stands before the last character of the text. -/
def replaceGroup (stop : Regex.State) (new t : Text) : Text :=
  match stop.group? 1 with
  | some (start, stop) => t.take start ++ new ++ t.drop stop
  | none => t.dropLast ++ new ++ t.drop (t.length - 1)

/-- Makes the file pass a test with this value, where the name of the test may be a regular
expression. A word is an expression that stands for itself, and without filters there is nothing to
look for. -/
def setFilterMatching (test value t : Text) : Except Regex.Error Text :=
  match block? "filters".toList t with
  | none => .ok (setFilterPredicate test value t)
  | some b =>
      if test.all isWordChar then .ok (setFilterPredicate test value t)
      else do
        let call ← Regex.parse (callPattern test)
        match call.search? b.before.flatten b.lines.flatten with
        | some (start, stop) =>
            return replaceGroup stop (argumentAfter (t.take start.position) value) t
        | none => return insertPredicate (filePredicate test value) b t

/-- A test that is named by a word is looked for by its name. -/
theorem setFilterMatching_word {test : Text} (value t : Text) (word : test.all isWordChar) :
    setFilterMatching test value t = .ok (setFilterPredicate test value t) := by
  unfold setFilterMatching
  split <;> simp [word]

end Notebase.Document
