import Notebase.Dict
import Notebase.Document.View
import Notebase.Text.Case

/-!
What a document says: its filter predicates, the kind, name, columns, sorting and grouping of
its first view, the names of its formulas and the names that its properties are shown under.
-/

namespace Notebase.Document

/-! ### Scalars and list items -/

def halveQuotes : Text → Text
  | '\'' :: '\'' :: t => '\'' :: halveQuotes t
  | c :: t => c :: halveQuotes t
  | [] => []

def isBetween (q : Char) (t : Text) : Bool :=
  2 ≤ t.length && t.head? == some q && t.getLast? == some q

/-- What a scalar says: the trimmed text, or what stands between its quotes. Single quotes are
written twice inside single quotes; inside double quotes nothing is undone. -/
def unquote (value : Text) : Text :=
  let v := value.trim
  if isBetween '\'' v then halveQuotes v.tail.dropLast
  else if isBetween '"' v then v.tail.dropLast
  else v

/-- The item on a line of a list: what follows the indented dash, without the spaces and tabs
at the end. -/
def listItem? (line : Text) : Option Text :=
  match Text.content line with
  | ' ' :: t =>
      (Text.after? "- ".toList (t.dropWhile (· == ' '))).map (dropEndWhile isSpaceOrTab)
  | _ => none

/-! ### Filters -/

def filterEntries (t : Text) : List Text :=
  match block? "filters".toList t with
  | none => []
  | some b => (b.lines.filterMap listItem?).map unquote

/-! ### The first view -/

def viewValue? (key t : Text) : Option Text :=
  match viewKey? key t with
  | none => none
  | some (_, k) =>
      match unquote k.value with
      | [] => none
      | v => some v

def viewType? (t : Text) : Option Text := viewValue? "type".toList t

def viewName? (t : Text) : Option Text := viewValue? "name".toList t

def viewChildren (key t : Text) : List Text :=
  match viewKey? key t with
  | none => []
  | some (_, k) => k.children

def viewOrder (t : Text) : List Text := (viewChildren "order".toList t).filterMap listItem?

def arrangementWords : List Text := ["property", "direction"].map String.toList

/-- One of the arrangement words at the start of a text, and what follows its colon. -/
def arrangement? (t : Text) : Option (Text × Text) :=
  arrangementWords.findSome? fun word => (Text.after? (word ++ [':']) t).map fun v => (word, v)

def firstWord? (t : Text) : Option Text :=
  match (t.dropWhile isBlank).takeWhile (!isBlank ·) with
  | [] => none
  | w => some w

/-- A line of a sorting: whether it opens an entry with a dash, its word and its value. -/
def sortLine? (line : Text) : Option (Bool × Text × Text) :=
  let t := line.dropWhile isBlank
  let (dash, t) :=
    match t with
    | '-' :: c :: rest => if isBlank c then (true, rest.dropWhile isBlank) else (false, t)
    | _ => (false, t)
  (arrangement? t).bind fun (word, rest) =>
    (firstWord? rest).map fun value => (dash, word, value)

def addSortLine (entries : List (Dict Text Text)) :
    Bool × Text × Text → List (Dict Text Text)
  | (dash, word, value) =>
      match entries.getLast?, dash with
      | some entry, false => entries.dropLast ++ [entry.insert word value]
      | _, _ => entries ++ [[(word, value)]]

def viewSort (t : Text) : List (Dict Text Text) :=
  ((Text.brokenLines (viewChildren "sort".toList t).flatten).filterMap sortLine?).foldl addSortLine []

/-- The arrangement words of a grouping with their values, after `skip` lines. A value may stand
on the line below its word. -/
def groupPairsFrom : (skip : Nat) → List Text → List (Text × Text)
  | _, [] => []
  | skip + 1, _ :: rest => groupPairsFrom skip rest
  | 0, line :: rest =>
      match arrangement? (line.dropWhile isBlank) with
      | none => groupPairsFrom 0 rest
      | some (word, written) =>
          match firstWord? written, rest.head?.bind firstWord? with
          | some value, _ => (word, value) :: groupPairsFrom 0 rest
          | none, some value => (word, value) :: groupPairsFrom 1 rest
          | none, none => groupPairsFrom 0 rest

def viewGroupBy? (t : Text) : Option (Dict Text Text) :=
  match Dict.ofList (groupPairsFrom 0 (viewChildren "groupBy".toList t)) with
  | [] => none
  | d => some d

/-! ### Formulas and shown names -/

def formulaName? (line : Text) : Option Text :=
  (Text.after? "  ".toList line).bind fun t =>
    match t.takeWhile isWordChar, (t.dropWhile isWordChar).head? with
    | c :: name, some ':' => some (c :: name)
    | _, _ => none

def formulaNames (t : Text) : List Text :=
  match block? "formulas".toList t with
  | none => []
  | some b => b.lines.filterMap formulaName?

/-- The reference on a line that opens the settings of a property: one word, two spaces deep,
that ends with a colon. -/
def propertyLine? (line : Text) : Option Text :=
  (Text.after? "  ".toList line).bind fun t =>
    let word := t.takeWhile (!isBlank ·)
    match Text.before? [':'] word with
    | some (c :: ref) =>
        if Text.isBlankText (t.drop word.length) then some (c :: ref) else none
    | _ => none

/-- The shown name that the lines after a property line give it, and how many lines that takes.
Blank lines may stand before the setting and between it and its value. -/
def shownName? (ls : List Text) : Option (Text × Nat) :=
  let gap := (ls.takeWhile Text.isBlankText).length
  match ls.drop gap with
  | [] => none
  | line :: rest =>
      (Text.after? "displayName:".toList (line.dropWhile isBlank)).map fun written =>
        if Text.isBlankText written then
          let gap' := (rest.takeWhile Text.isBlankText).length
          match rest.drop gap' with
          | [] => ([], gap + 1 + gap')
          | next :: _ => (next.trim, gap + 1 + gap' + 1)
        else (written.trim, gap + 1)

/-- The references with their shown names, after `skip` lines. -/
def shownNamesFrom : (skip : Nat) → List Text → List (Text × Text)
  | _, [] => []
  | skip + 1, _ :: rest => shownNamesFrom skip rest
  | 0, line :: rest =>
      match propertyLine? line with
      | none => shownNamesFrom 0 rest
      | some ref =>
          match shownName? rest with
          | none => shownNamesFrom 0 rest
          | some (name, used) => (ref, name) :: shownNamesFrom used rest

def displayNames (t : Text) : Dict Text Text :=
  match block? "properties".toList t with
  | none => []
  | some b =>
      Dict.ofList ((shownNamesFrom 0 b.lines).filterMap fun (ref, written) =>
        match unquote written with
        | [] => none
        | name => some (name.lower, ref))

/-! ### All of it -/

/-- Everything that is read off a document. -/
structure Summary where
  filterEntries : List Text
  viewType : Option Text
  viewName : Option Text
  viewOrder : List Text
  viewSort : List (Dict Text Text)
  viewGroupBy : Option (Dict Text Text)
  formulaNames : List Text
  displayNames : Dict Text Text
deriving DecidableEq, Repr

def inspect (t : Text) : Summary where
  filterEntries := filterEntries t
  viewType := viewType? t
  viewName := viewName? t
  viewOrder := viewOrder t
  viewSort := viewSort t
  viewGroupBy := viewGroupBy? t
  formulaNames := formulaNames t
  displayNames := displayNames t

end Notebase.Document
