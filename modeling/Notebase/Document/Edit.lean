import Notebase.Document.Inspect
import Notebase.Document.Render
import Notebase.Request.Vocabulary

/-!
Edits of a document. Each edit finds the place it needs, writes there and leaves every other
character alone; where the place is missing, it leaves the whole document alone.
-/

namespace Notebase.Document

/-! ### Filters -/

/-- Splits a text after the opening quote at the quote and parenthesis that close the argument;
a backslash keeps the character after it from closing, and never stands before a line end. -/
def splitArgument? : Text → Option (Text × Text)
  | [] => none
  | '"' :: ')' :: rest => some ([], '"' :: ')' :: rest)
  | '"' :: _ => none
  | '\\' :: c :: t =>
      if c = '\n' then none
      else (splitArgument? t).map fun (argument, rest) => ('\\' :: c :: argument, rest)
  | ['\\'] => none
  | c :: t => (splitArgument? t).map fun (argument, rest) => (c :: argument, rest)

/-- The first call of a test of the file: the text before it, and the text after its
argument. -/
def splitCall? (test : Text) : Text → Option (Text × Text)
  | [] => none
  | c :: t =>
      match (Text.after? (callFront test) (c :: t)).bind splitArgument? with
      | some (_, rest) => some ([], rest)
      | none => (splitCall? test t).map fun (before, rest) => (c :: before, rest)

def lastLine (t : Text) : Text := (t.reverse.takeWhile (· != '\n')).reverse

/-- Whether a predicate after this text stands inside single quotes: the list item that it
belongs to opens with one. -/
def opensQuoted (before : Text) : Bool :=
  ((lastLine before).dropWhile fun c => c == ' ' || c == '-').head? == some '\''

/-- The depth of a line that joins predicates, `and:` or `or:` with nothing else on it. -/
def conjunctionDepth? (line : Text) : Option Nat :=
  let t := line.dropWhile (· == ' ')
  let rest? := ["and:", "or:"].findSome? fun word => Text.after? word.toList t
  rest?.bind fun rest =>
    if rest.dropWhile isSpaceOrTab == ['\n'] then some (Text.indentation line) else none

def argumentAfter (before value : Text) : Text :=
  if opensQuoted before then doubleQuotes (escape value) else escape value

/-- Puts a predicate first under the word that joins the predicates of a block. -/
def insertPredicate (predicate : Text) (b : Block) (t : Text) : Text :=
  match splitFirst? (fun line => (conjunctionDepth? line).isSome) b.lines with
  | none => t
  | some (before, line, after) =>
      let item := Text.spaces (Text.indentation line + 2) ++ "- ".toList ++
        quotePredicate predicate ++ ['\n']
      b.replace (before.flatten ++ line ++ item ++ after.flatten)

def prependFilters (predicate t : Text) : Text :=
  renderFilters [predicate] "and".toList ++ "\n\n".toList ++ t.dropWhile (· == '\n')

/-- Makes the file pass a test with this value: the first such predicate gets the value, or a
predicate is put first under the word that joins the predicates. A document without filters
gets them at its start. -/
def setFilterPredicate (test value t : Text) : Text :=
  match block? "filters".toList t with
  | none => prependFilters (filePredicate test value) t
  | some b =>
      match splitCall? test b.lines.flatten with
      | some (before, rest) =>
          b.replace (before ++ callFront test ++ argumentAfter before value ++ rest)
      | none => insertPredicate (filePredicate test value) b t

/-! ### Values of the view -/

def setViewType (viewType t : Text) : Text :=
  match viewKey? "type".toList t with
  | none => t
  | some (v, k) => v.replace (k.withValue viewType)

def insertAfter (v : View) (k : Key) (block : Text) : Text :=
  v.replace (Text.appendLines k.upTo block ++ k.after.flatten)

def renameView (name t : Text) : Text :=
  match viewKey? "name".toList t with
  | some (v, k) => v.replace (k.withValue (quotedName name))
  | none =>
      match viewKey? "type".toList t with
      | none => t
      | some (v, k) =>
          insertAfter v k (Text.spaces v.indent ++ "name: ".toList ++ quotedName name ++ ['\n'])

/-! ### Columns -/

/-- The references that are neither columns already nor noise, each once. -/
def newColumns (current refs : List Text) : List Text :=
  (refs.filter fun ref => !current.contains ref && !Request.isNoise ref).eraseDups

def addColumns (refs : List Text) (t : Text) : Text :=
  match viewKey? "order".toList t with
  | none => t
  | some (v, k) =>
      match newColumns (viewOrder t) refs with
      | [] => t
      | new =>
          insertAfter v k (unlines (new.map fun ref =>
            Text.spaces (v.indent + 2) ++ "- ".toList ++ ref))

/-- Whether a line is the list item `ref`, with nothing after it but spaces and tabs. -/
def isColumn (ref line : Text) : Bool :=
  match Text.content line with
  | ' ' :: t =>
      ((Text.after? ("- ".toList ++ ref) (t.dropWhile (· == ' '))).map
        (·.all isSpaceOrTab)).getD false
  | _ => false

/-- What follows the list item `ref` at the start of a text and the line end after it, if the
text starts with that item and nothing but spaces and tabs stands on the rest of its line. -/
def afterColumn? (ref t : Text) : Option Text :=
  match t with
  | ' ' :: t =>
      (Text.after? ("- ".toList ++ ref) (t.dropWhile (· == ' '))).bind fun rest =>
        match rest.dropWhile isSpaceOrTab with
        | [] => some []
        | '\n' :: after => some after
        | _ => none
  | _ => none

/-- The first column among some lines whose reference has line ends in it: the text before it,
its own and the text after it. -/
def splitWideColumn? (ref : Text) : List Text → Option (Text × Text × Text)
  | [] => none
  | line :: rest =>
      let t := line ++ rest.flatten
      match afterColumn? ref t with
      | some after => some ([], t.take (t.length - after.length), after)
      | none =>
          (splitWideColumn? ref rest).map fun (before, part, after) => (line ++ before, part, after)

/-- The first column with this reference among some lines: the text before it, its own and the
text after it. -/
def splitColumn? (ref : Text) (lines : List Text) : Option (Text × Text × Text) :=
  if ref.contains '\n' then splitWideColumn? ref lines
  else
    (splitFirst? (isColumn ref) lines).map fun (before, line, after) =>
      (before.flatten, line, after.flatten)

/-- Removes the first column with this reference. When it was the last one and had no line end,
the line before it loses its own. -/
def removeColumn (t ref : Text) : Text :=
  match viewKey? "order".toList t with
  | none => t
  | some (v, k) =>
      match splitColumn? ref k.children with
      | none => t
      | some (before, part, after) =>
          let kept := k.before.flatten ++ k.line ++ before
          let kept := if Text.terminated part then kept else kept.dropLast
          v.replace (kept ++ after ++ k.after.flatten)

def removeColumns (refs : List Text) (t : Text) : Text := refs.foldl removeColumn t

/-! ### Sorting and grouping -/

/-- Writes the block of a key: in the place of the key if the view has it, or else after the
columns. -/
def setViewBlock (key : Text) (block : Nat → Text) (t : Text) : Text :=
  match viewKey? key t with
  | some (v, k) =>
      v.replace (k.before.flatten ++ Text.inPlaceOf k.text (block v.indent) ++ k.after.flatten)
  | none =>
      match viewKey? "order".toList t with
      | none => t
      | some (v, k) => insertAfter v k (block v.indent)

def setSort (property direction t : Text) : Text :=
  setViewBlock "sort".toList (renderSort property direction) t

def setGroupBy (property direction t : Text) : Text :=
  setViewBlock "groupBy".toList (renderGroupBy property direction) t

end Notebase.Document
