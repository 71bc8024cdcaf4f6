import Notebase.Text.Lines
import Notebase.Text.WordChar

/-!
The top level of a document. A key at the start of a line opens a block, and the block reaches
up to the next line that starts with a key.
-/

namespace Notebase.Document

/-- A line that starts with a key of the top level: a letter or an underscore, then word
characters and hyphens, then a colon. -/
def isTopKey : Text → Bool
  | [] => false
  | c :: t => (c.isAlpha || c == '_') && (t.dropWhile isKeyChar).head? == some ':'

def startsWithKey (key line : Text) : Bool := (key ++ [':']).isPrefixOf line

/-- A block of the top level and the lines around it. -/
structure Block where
  before : List Text
  header : Text
  body : List Text
  after : List Text

namespace Block

def lines (b : Block) : List Text := b.header :: b.body

def replace (b : Block) (new : Text) : Text := b.before.flatten ++ new ++ b.after.flatten

end Block

def block? (key t : Text) : Option Block :=
  (splitFirst? (startsWithKey key) t.lines).map fun (before, header, rest) =>
    { before, header,
      body := rest.takeWhile (!isTopKey ·)
      after := rest.dropWhile (!isTopKey ·) }

/-- A block and the lines around it are the document. -/
theorem replace_lines_of_block? {key t : Text} {b : Block} (found : block? key t = some b) :
    b.replace b.lines.flatten = t := by
  unfold block? at found
  rw [Option.map_eq_some_iff] at found
  obtain ⟨⟨before, header, rest⟩, split, rfl⟩ := found
  have whole := (splitFirst?_eq_some split).1
  have := congrArg List.flatten whole
  simp only [Text.flatten_lines, List.flatten_append, List.flatten_cons] at this
  simp only [Block.replace, Block.lines, List.flatten_cons, this, List.append_assoc]
  rw [← List.flatten_append, List.takeWhile_append_dropWhile]

/-- The lines of the document are those before the block, its own and those after it. -/
theorem lines_of_block? {key t : Text} {b : Block} (found : block? key t = some b) :
    t.lines = b.before ++ b.lines ++ b.after := by
  unfold block? at found
  rw [Option.map_eq_some_iff] at found
  obtain ⟨⟨before, header, rest⟩, split, rfl⟩ := found
  rw [(splitFirst?_eq_some split).1]
  simp [Block.lines, List.takeWhile_append_dropWhile]

end Notebase.Document
