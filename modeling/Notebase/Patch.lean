import Notebase.Document.Matching
import Notebase.Request.Basic

/-!
Patching: one request applied to a document as a fixed sequence of edits. A part that the
request does not name is no edit, and an edit that finds no place in the document changes
nothing; only the edits that change something are reported.
-/

namespace Notebase

/-! ### Edits as data -/

inductive Edit where
  | filter (test value : Text)
  | viewType (kind : Text)
  | addColumns (refs : List Text)
  | removeColumns (refs : List Text)
  | sort (property direction : Text)
  | groupBy (property direction : Text)
  | rename (name : Text)
deriving DecidableEq, Repr

def Edit.apply (t : Text) : Edit → Text
  | .filter test value => Document.setFilterPredicate test value t
  | .viewType kind => Document.setViewType kind t
  | .addColumns refs => Document.addColumns refs t
  | .removeColumns refs => Document.removeColumns refs t
  | .sort property direction => Document.setSort property direction t
  | .groupBy property direction => Document.setGroupBy property direction t
  | .rename name => Document.renameView name t

/-- The document after the edit, where the name of a test may be a regular expression. -/
def Edit.perform (t : Text) : Edit → Except Regex.Error Text
  | .filter test value => Document.setFilterMatching test value t
  | edit => .ok (edit.apply t)

namespace Patch

/-- The parts of a request that a patch carries out, in the order in which it does. -/
inductive Step where
  | tag
  | folder
  | viewType
  | add
  | remove
  | sort
  | groupBy
  | rename
deriving DecidableEq, Repr

def Step.label : Step → Text
  | .tag => "tag".toList
  | .folder => "folder".toList
  | .viewType => "view_type".toList
  | .add => "add".toList
  | .remove => "remove".toList
  | .sort => "sort".toList
  | .groupBy => "group_by".toList
  | .rename => "rename".toList

/-! ### Names in the document -/

/-- The reference that a name stands for in a document: a shown name comes first, then a
formula, whose words may be written apart, and then the built-in properties. -/
def resolver (document name : Text) : Text :=
  let formulas := Dict.ofList ((Document.formulaNames document).map fun f => (f.lower, f))
  let key := (Text.unwords (Text.words name)).lower
  match (Document.displayNames document).get? key with
  | some ref => ref
  | none =>
      match formulas.get? (key.replaceChar ' ' ['_']) with
      | some formula => "formula.".toList ++ formula
      | none => Property.resolve name

/-! ### The steps of a request -/

def asksToRemove (instruction : Text) : Bool :=
  (Request.Phrase.cueWord Request.removeCues).occursIn instruction

/-- Whether a sentence asks to add columns. A wish to remove takes precedence. -/
def asksToAdd (instruction : Text) : Bool :=
  (Request.Phrase.cueWord Request.addCues).occursIn instruction && !asksToRemove instruction

/-- The edits for an instruction whose parts have been read as `request`, in order. -/
def steps (resolve : Text → Text) (instruction : Text) (request : Request) :
    List (Step × Edit) :=
  let refs := fun names : Option (List Text) => (names.getD []).map resolve
  [ (Text.given? request.tag).map fun tag => (Step.tag, Edit.filter "hasTag".toList tag),
    (Text.given? request.folder).map fun folder => (.folder, .filter "inFolder".toList folder),
    (Text.given? request.viewType).map fun kind => (.viewType, .viewType kind),
    if asksToAdd instruction then
      some (.add, .addColumns (refs (Request.addedOf instruction))) else none,
    if asksToRemove instruction then
      some (.remove, .removeColumns (refs (Request.removedOf instruction))) else none,
    request.sorting.map fun s => (.sort, .sort s.property s.direction),
    (Text.given? request.groupBy).map fun property => (.groupBy, .groupBy property "ASC".toList),
    (Text.given? request.renameTo).map fun name => (.rename, .rename name)].filterMap id

/-- Applies steps in order; keeps the names of those that change the document. -/
def applySteps (document : Text) : List (Step × Edit) → Text × List Step
  | [] => (document, [])
  | (step, edit) :: rest =>
      let updated := edit.apply document
      let (final, applied) := applySteps updated rest
      (final, if updated = document then applied else step :: applied)

/-- Applies an instruction whose parts have been read already. -/
def patchWith (document instruction : Text) (request : Request) : Text × List Step :=
  applySteps document (steps (resolver document) instruction request)

def patch (document instruction : Text) : Text × List Step :=
  patchWith document instruction (Request.ofText (resolver document) instruction)

end Patch

end Notebase
