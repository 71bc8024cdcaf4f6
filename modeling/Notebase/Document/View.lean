import Notebase.Document.Block

/-!
The first view of a document and the keys in it. The view is the first item of the list under
`views`, and it reaches up to the next item with the same indentation. Its own keys stand two
spaces deeper than the dash, or right after it.
-/

namespace Notebase.Document

/-! ### The view -/

def isItem (line : Text) : Bool := "- ".toList.isPrefixOf (line.dropWhile (· == ' '))

/-- What a line that starts a list item `dash` spaces deep starts with. -/
def dashFront (dash : Nat) : Text := Text.spaces dash ++ "- ".toList

def isEmptyLine (line : Text) : Bool := line == ['\n']

/-- The first view: the lines before it, the line with its dash, its other lines, the lines
after it, and how deep the dash stands. -/
structure View where
  before : List Text
  head : Text
  body : List Text
  after : List Text
  dash : Nat

namespace View

def lines (v : View) : List Text := v.head :: v.body

/-- How deep the view's own keys stand. -/
def indent (v : View) : Nat := v.dash + 2

def replace (v : View) (new : Text) : Text := v.before.flatten ++ new ++ v.after.flatten

end View

/-- The first view of a document. Empty lines at its end belong to the gap after it. -/
def firstView? (t : Text) : Option View :=
  (block? "views".toList t).bind fun b =>
    (splitFirst? isItem b.body).map fun (skipped, head, rest) =>
      let dash := Text.indentation head
      let sibling := fun line => (dashFront dash).isPrefixOf line
      let body := rest.takeWhile (!sibling ·)
      let kept := dropEndWhile isEmptyLine body
      { before := b.before ++ b.header :: skipped
        head := head
        body := kept
        after := body.drop kept.length ++ rest.dropWhile (!sibling ·) ++ b.after
        dash := dash }

/-- The lines of the document are those before the view, its own and those after it. -/
theorem lines_of_firstView? {t : Text} {v : View} (found : firstView? t = some v) :
    t.lines = v.before ++ v.lines ++ v.after := by
  unfold firstView? at found
  rw [Option.bind_eq_some_iff] at found
  obtain ⟨b, block, found⟩ := found
  rw [Option.map_eq_some_iff] at found
  obtain ⟨⟨skipped, head, rest⟩, split, rfl⟩ := found
  have body := (splitFirst?_eq_some split).1
  rw [lines_of_block? block]
  simp only [View.lines, Block.lines, body, List.append_assoc, List.cons_append]
  congr 4
  rw [← List.append_assoc, dropEndWhile_append_drop, ← List.append_assoc,
    List.takeWhile_append_dropWhile]

/-- A view and the lines around it are the document. -/
theorem replace_lines_of_firstView? {t : Text} {v : View} (found : firstView? t = some v) :
    v.replace v.lines.flatten = t := by
  have lines := congrArg List.flatten (lines_of_firstView? found)
  simpa [View.replace] using lines.symm

/-! ### Keys of the view -/

def isDeeper (indent : Nat) (line : Text) : Bool :=
  match line.dropWhile (· == ' ') with
  | [] => false
  | c :: _ => !isBlank c && indent < Text.indentation line

/-- A key of the view: the lines of the view before it, its own line as label, value and line
end, the deeper lines under it, and the lines of the view after them. -/
structure Key where
  before : List Text
  label : Text
  value : Text
  ending : Text
  children : List Text
  after : List Text

namespace Key

def line (k : Key) : Text := k.label ++ k.value ++ k.ending

def withValue (k : Key) (value : Text) : Text :=
  k.before.flatten ++ k.label ++ value ++ k.ending ++ k.children.flatten ++ k.after.flatten

def upTo (k : Key) : Text := k.before.flatten ++ k.line ++ k.children.flatten

def text (k : Key) : Text := k.line ++ k.children.flatten

end Key

/-- A line as a key of a view: everything up to its value, and the rest of the line. -/
def splitLabel? (dash : Nat) (key line : Text) : Option (Text × Text) :=
  let front? := fun front : Text =>
    let name := front ++ key ++ [':']
    (Text.after? name line).map fun rest =>
      (name ++ rest.takeWhile isSpaceOrTab, rest.dropWhile isSpaceOrTab)
  match front? (dashFront dash) with
  | some found => some found
  | none => front? (Text.spaces (dash + 2))

def View.key? (v : View) (key : Text) : Option Key :=
  (splitFirst? (fun line => (splitLabel? v.dash key line).isSome) v.lines).bind
    fun (before, line, rest) =>
      (splitLabel? v.dash key line).map fun (label, written) =>
        { before, label,
          value := Text.content written
          ending := Text.ending written
          children := rest.takeWhile (isDeeper v.indent)
          after := rest.dropWhile (isDeeper v.indent) }

/-- Splitting off a label loses nothing. -/
theorem append_of_splitLabel? {dash : Nat} {key line label rest : Text}
    (found : splitLabel? dash key line = some (label, rest)) : label ++ rest = line := by
  have front : ∀ name : Text,
      (Text.after? name line).map (fun rest =>
        (name ++ rest.takeWhile isSpaceOrTab, rest.dropWhile isSpaceOrTab)) =
          some (label, rest) → label ++ rest = line := by
    intro name h
    rw [Option.map_eq_some_iff] at h
    obtain ⟨after, isAfter, eq⟩ := h
    simp only [Prod.mk.injEq] at eq
    obtain ⟨rfl, rfl⟩ := eq
    rw [Text.after?_eq_some_iff.mp isAfter, List.append_assoc, List.takeWhile_append_dropWhile]
  unfold splitLabel? at found
  simp only at found
  split at found
  · next pair h => rw [found] at h; exact front _ h
  · exact front _ found

/-- The lines of the view are those before the key, its own line, the deeper lines under it and
those after them. -/
theorem lines_of_key? {v : View} {key : Text} {k : Key} (found : v.key? key = some k) :
    v.lines = k.before ++ k.line :: k.children ++ k.after := by
  unfold View.key? at found
  rw [Option.bind_eq_some_iff] at found
  obtain ⟨⟨before, line, rest⟩, split, found⟩ := found
  rw [Option.map_eq_some_iff] at found
  obtain ⟨⟨label, written⟩, isLabel, rfl⟩ := found
  have label_eq : label ++ Text.content written ++ Text.ending written = line := by
    rw [List.append_assoc, Text.content, Text.ending, List.takeWhile_append_dropWhile]
    exact append_of_splitLabel? isLabel
  rw [(splitFirst?_eq_some split).1]
  simp [Key.line, label_eq, List.takeWhile_append_dropWhile]

def viewKey? (key t : Text) : Option (View × Key) :=
  (firstView? t).bind fun v => (v.key? key).map fun k => (v, k)

end Notebase.Document
