import Notebase.Document.Render
import Notebase.Text.Lines
import Notebase.Request.Basic

/-!
A first document for a request. It has one view; without a tag or a folder it lists every note,
and without columns it shows two default formulas.
-/

namespace Notebase.Draft

def defaultViewName : Text := "Results".toList

def everyNote : Text := "file.ext == \"md\"".toList

/-- A formula of a default document, with the name that it is shown under. -/
structure Formula where
  name : Text
  expression : Text
  shownName : Text

def defaultFormulas : List Formula := [
  ⟨"last_updated".toList, "file.mtime.relative()".toList, "Updated".toList⟩,
  ⟨"word_count".toList, "(file.size / 5).round(0)".toList, "~Words".toList⟩]

/-- The columns of a document that is given none. -/
def defaultOrder : List Text :=
  ["file.name", "formula.word_count", "formula.last_updated"].map String.toList

def predicates (r : Request) : List Text :=
  let tag := (Text.given? r.tag).map (Document.filePredicate "hasTag".toList)
  let folder := (Text.given? r.folder).map (Document.filePredicate "inFolder".toList)
  match tag.toList ++ folder.toList with
  | [] => [everyNote]
  | ps => ps

def formulaBlocks : List Text := [
  Document.joinLines ("formulas:".toList :: defaultFormulas.map fun f =>
    "  ".toList ++ f.name ++ ": '".toList ++ f.expression ++ ['\'']),
  Document.joinLines ("properties:".toList :: defaultFormulas.flatMap fun f =>
    ["  formula.".toList ++ f.name ++ [':'],
      "    displayName: \"".toList ++ f.shownName ++ ['"']])]

def viewBlock (r : Request) (order : List Text) : Text :=
  let name := (Text.given? r.renameTo).getD defaultViewName
  let keys := Document.unlines (
    ["views:".toList,
      "  - type: ".toList ++ r.resolvedViewType,
      "    name: \"".toList ++ name ++ ['"'],
      "    order:".toList] ++
    order.map fun ref => "      - ".toList ++ ref)
  let sort := match r.sorting with
    | none => []
    | some s => Document.renderSort s.property s.direction 4
  let groupBy := match Text.given? r.groupBy with
    | none => []
    | some property => Document.renderGroupBy property "ASC".toList 4
  Text.dropFinalNewlines (keys ++ sort ++ groupBy)

def ofRequest (r : Request) : Text :=
  let filters := Document.renderFilters (predicates r) "and".toList
  let columns := r.properties.getD []
  let sections :=
    if columns.isEmpty then filters :: formulaBlocks ++ [viewBlock r defaultOrder]
    else [filters, viewBlock r columns]
  Text.join "\n\n".toList sections

def ofText (t : Text) : Text := ofRequest (Request.ofText Property.resolve t)

end Notebase.Draft
