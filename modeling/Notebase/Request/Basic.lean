import Notebase.Property
import Notebase.Request.Name
import Notebase.Request.Phrase

/-!
A request is what one sentence asks of a document: a tag, a folder, a kind of view, columns, a
sorting, a grouping and a name for the view. Each part is read by a rule of its own from the
whole sentence, and a rule that finds nothing leaves its part open.
-/

namespace Notebase

structure Sorting where
  property : Text
  direction : Text := "ASC".toList
deriving DecidableEq, Repr

/-- What a sentence asks for. A part that it does not name is `none`. -/
structure Request where
  tag : Option Text := none
  folder : Option Text := none
  viewType : Option Text := none
  properties : Option (List Text) := none
  sorting : Option Sorting := none
  groupBy : Option Text := none
  renameTo : Option Text := none
deriving DecidableEq, Repr

namespace Request

/-- The kind of view asked for, a table if none is. An empty kind is none. -/
def resolvedViewType (r : Request) : Text := (Text.given? r.viewType).getD "table".toList

def isEmpty (r : Request) : Bool :=
  r.tag.isNone && r.folder.isNone && r.viewType.isNone && r.properties.isNone &&
    r.sorting.isNone && r.groupBy.isNone && r.renameTo.isNone

/-! ### Rules for the parts -/

/-- The tag: the first one written with a number sign, or else the first that a phrase names. -/
def tagOf (t : Text) : Option Text :=
  match Phrase.tagLiteral.find? t with
  | some (_, m) => some m.subject
  | none =>
      ((Phrase.tagPhrase.findAll t).map (·.subject)).find? fun name =>
        !isNoise name && !tagStopWords.contains name.lower

def isFolderName (name : Text) : Bool := !isNoise name && name.lower != "folder".toList

/-- The folder: the first that "folder" announces, or else the first that "in" announces. -/
def folderOf (t : Text) : Option Text :=
  (((Phrase.folderPhrase.findAll t) ++ Phrase.inPhrase.findAll t).map
    (·.subject.trim)).find? isFolderName

def viewTypeOf (t : Text) : Option Text :=
  (Phrase.viewCues.find? fun (_, cue) => cue.occursIn t).map fun (kind, _) => kind.toList

/-- The names in the text after a cue: the quoted ones if there are any, or else the parts of
the list up to the end of its clause. -/
def listedNames (t : Text) : List Text :=
  match (Phrase.quoted.findAll t).map (·.subject) with
  | [] => Phrase.listSeparator.pieces (Phrase.clauseBreak.textBefore t)
  | names => names

def isPropertyName (name : Text) : Bool := !name.contains '#' && !isNoise name

/-- The property names that follow the first cue word, each once. A wish to rename is not read
as part of the list. -/
def namesAfter (cues : List Text) (t : Text) : Option (List Text) :=
  match (Phrase.cue cues).find? (Phrase.renamePhrase.replaceAll [' '] t) with
  | none => none
  | some (_, m) =>
      match (((listedNames m.rest).filterMap cleanName).filter isPropertyName).eraseDups with
      | [] => none
      | names => some names

def columnsOf (t : Text) : Option (List Text) := namesAfter (columnCues.map String.toList) t

def addedOf (t : Text) : Option (List Text) := namesAfter (addCues.map String.toList) t

def removedOf (t : Text) : Option (List Text) := namesAfter (removeCues.map String.toList) t

def nameOfFragment (fragment : Text) : Option Text :=
  let t := fragment.trim
  if t.head?.all isOpeningQuote then
    match withoutQuotes t with
    | [] => none
    | name => some name
  else cleanName t

def lastName (phrase : Pattern) (t : Text) : Option Text :=
  (((phrase.findAll t).map (·.subject)).filterMap nameOfFragment).getLast?

/-- The sorting; it goes upwards unless the sentence says "descending" anywhere. -/
def sortingOf (t : Text) : Option Sorting :=
  (lastName Phrase.sortPhrase t).map fun name =>
    ⟨name, (if Phrase.descending.occursIn t then "DESC" else "ASC").toList⟩

def groupByOf (t : Text) : Option Text := lastName Phrase.groupPhrase t

def renameOf (t : Text) : Option Text :=
  match Phrase.renamePhrase.find? t with
  | none => none
  | some (_, m) =>
      match m.subject.trim with
      | [] => none
      | name => some name

/-! ### The whole request -/

/-- What a sentence asks for, with its property names turned into references by `resolve`. -/
def ofText (resolve : Text → Text) (t : Text) : Request where
  tag := tagOf t
  folder := folderOf t
  viewType := viewTypeOf t
  properties := (columnsOf t).map fun names => (names.map resolve).eraseDups
  sorting := (sortingOf t).map fun s => { s with property := resolve s.property }
  groupBy := (groupByOf t).map resolve
  renameTo := renameOf t

end Request

end Notebase
