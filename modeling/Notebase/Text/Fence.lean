import Notebase.Text.Basic
import Notebase.Text.WordChar

/-!
Code fences around a reply. A reply that opens with three backticks loses them together with
the language tag and the rest of that line, and loses three closing backticks with the line end
before them.
-/

namespace Notebase.Text

def fence : Text := "```".toList

/-- Drops a line end from the front, if there is one. -/
def dropNewline : Text → Text
  | '\n' :: t => t
  | t => t

/-- What follows an opening fence: the language tag, the blanks after it and one line end are
dropped. -/
def afterOpening (t : Text) : Text :=
  dropNewline ((t.dropWhile isKeyChar).dropWhile isSpaceOrTab)

/-- What precedes a closing fence; the line end before the fence goes with it. -/
def beforeClosing (t : Text) : Text :=
  match before? fence t with
  | none => t
  | some body => (before? ['\n'] body).getD body

def stripFence (t : Text) : Text :=
  let t := t.trim
  match after? fence t with
  | none => t
  | some rest => (beforeClosing (afterOpening rest)).trim

end Notebase.Text
