import Notebase.Document.Render
import Notebase.Text.WordChar
import Notebase.Text.Case
import Notebase.Text.Lines

/-!
Documents from a filled-in form. Every field is trimmed, and a field that is left blank adds
nothing to the document; a form with a field that cannot be written is refused with the reason.
-/

namespace Notebase

namespace Form

structure Formula where
  name : Text
  expression : Text
deriving DecidableEq, Repr

structure Summary where
  property : Text
  summary : Text
deriving DecidableEq, Repr

end Form

/-- The fields of a document with one view. -/
structure Form where
  tags : List Text := []
  folder : Option Text := none
  logic : Text := "and".toList
  formulas : List Form.Formula := []
  properties : List Text := ["file.name".toList]
  customProperties : List Text := []
  viewType : Text := "table".toList
  viewName : Option Text := none
  limit : Option Int := none
  sortBy : Option Text := none
  sortDirection : Option Text := none
  groupBy : Option Text := none
  groupDirection : Option Text := none
  summaries : List Form.Summary := []
deriving DecidableEq, Repr

namespace Form

/-- The ways to arrange a view, of which each has a direction. -/
inductive Arrangement where
  | sort
  | group
deriving DecidableEq, Repr

inductive Error where
  | badLogic (logic : Text)
  | badViewType (viewType : Text)
  | badLimit
  | unknownSummary (summary : Text)
  | badFormulaName (name : Text)
  | badDirection (arrangement : Arrangement) (direction : Text)
deriving DecidableEq, Repr

def viewTypes : List Text := ["table", "cards", "list", "map"].map String.toList

def logics : List Text := ["and", "or"].map String.toList

def directions : List Text := ["ASC", "DESC"].map String.toList

def summaryTypes : List Text := [
  "Sum", "Average", "Min", "Max", "Median", "Range", "Stddev",
  "Earliest", "Latest", "Filled", "Empty", "Unique", "Checked", "Unchecked"].map String.toList

/-- What the person who filled in the form is told. -/
def Error.message : Error → Text
  | .badLogic logic =>
      "Invalid filter logic '".toList ++ logic ++ "'. Use 'and' or 'or'.".toList
  | .badViewType viewType =>
      "Invalid view type '".toList ++ viewType ++ "'. Use one of: ".toList ++
        Text.join ", ".toList viewTypes ++ ".".toList
  | .badLimit => "Limit must be a positive number.".toList
  | .unknownSummary summary => "Unknown summary '".toList ++ summary ++ "'.".toList
  | .badFormulaName name =>
      "Invalid formula name '".toList ++ name ++
        "'. Use letters, digits and underscores.".toList
  | .badDirection arrangement direction =>
      let what := match arrangement with
        | .sort => "sort"
        | .group => "group"
      "Invalid ".toList ++ what.toList ++ " direction '".toList ++ direction ++
        "'. Use ASC or DESC.".toList

/-! ### Fields -/

/-- The entries of a list field, trimmed and without the blank ones. -/
def entries (items : List Text) : List Text := (items.map Text.trim).filter (!·.isEmpty)

def splitList (value : Text) : List Text := entries (value.splitOnP (· == ','))

/-- A text that follows the character `prev`, with the first letter of each word as a
capital. -/
def capitalize : (prev : Option Char) → Text → Text
  | _, [] => []
  | prev, c :: t =>
      (if isWordChar c && !prev.any isWordChar then upperChar c else [c]) ++
        capitalize (some c) t

/-- The name that a formula is shown under: words with capitals in the place of the
underscores. -/
def shownName (formula : Text) : Text := capitalize none (formula.replaceChar '_' [' '])

/-- A formula's expression as a scalar: inside single quotes if it has a double quote, and
otherwise inside double quotes with its backslashes doubled. -/
def quoteFormula (expression : Text) : Text :=
  if expression.contains '"' then Document.singleQuoted expression
  else '"' :: expression.replaceChar '\\' ['\\', '\\'] ++ ['"']

/-- The trimmed value of a field; an absent one counts as empty. -/
def text (field : Option Text) : Text := (field.getD []).trim

/-- The direction of an arrangement, in capitals; none if the field is empty. -/
def direction? (arrangement : Arrangement) (field : Option Text) :
    Except Error (Option Text) :=
  match Text.given? field with
  | none => .ok none
  | some value =>
      let direction := value.trim.upper
      if directions.contains direction then .ok (some direction)
      else .error (.badDirection arrangement value)

def keptFormulas : List Formula → Except Error (List Formula)
  | [] => .ok []
  | f :: rest =>
      let name := f.name.trim
      let expression := f.expression.trim
      if name.isEmpty || expression.isEmpty then keptFormulas rest
      else if !name.all isWordChar then .error (.badFormulaName name)
      else (keptFormulas rest).map (⟨name, expression⟩ :: ·)

/-- Refuses a form whose choices are none of those offered. -/
def check (form : Form) : Except Error Unit :=
  if !logics.contains form.logic then .error (.badLogic form.logic)
  else if !viewTypes.contains form.viewType then .error (.badViewType form.viewType)
  else if form.limit.any (· < 1) then .error .badLimit
  else
    match form.summaries.find? fun s => !summaryTypes.contains s.summary with
    | some s => .error (.unknownSummary s.summary)
    | none => .ok ()

/-! ### Sections -/

/-- The predicates of the filters: the tags without their number signs, and the folder. -/
def predicates (form : Form) : List Text :=
  (entries form.tags).map (fun tag =>
    Document.filePredicate "hasTag".toList (tag.dropWhile (· == '#'))) ++
  (if (text form.folder).isEmpty then []
    else [Document.filePredicate "inFolder".toList (text form.folder)])

def formulaBlocks (formulas : List Formula) : List Text :=
  if formulas.isEmpty then []
  else [
    Document.joinLines ("formulas:".toList :: formulas.map fun f =>
      "  ".toList ++ f.name ++ ": ".toList ++ quoteFormula f.expression),
    Document.joinLines ("properties:".toList :: formulas.flatMap fun f =>
      ["  formula.".toList ++ f.name ++ [':'],
        "    displayName: \"".toList ++ shownName f.name ++ ['"']])]

def columns (form : Form) (formulas : List Formula) : List Text :=
  entries form.properties ++ entries form.customProperties ++
    formulas.map fun f => "formula.".toList ++ f.name

def resolvedViewName (form : Form) : Text :=
  if (text form.viewName).isEmpty then "Results".toList else text form.viewName

def arrangementBlock (render : Text → Text → Nat → Text) (property direction : Option Text) :
    Text :=
  match Text.given? property, direction with
  | some property, some direction => render property.trim direction 4
  | _, _ => []

def viewBlock (form : Form) (formulas : List Formula) (sortDirection groupDirection : Option Text) :
    Text :=
  let columns := form.columns formulas
  let keys := ["views:".toList, "  - type: ".toList ++ form.viewType,
    "    name: ".toList ++ Document.quotedName form.resolvedViewName]
  let limit := match form.limit with
    | some n => ["    limit: ".toList ++ Text.ofInt n]
    | none => []
  let order := if columns.isEmpty then []
    else "    order:".toList :: columns.map fun ref => "      - ".toList ++ ref
  let summaries := form.summaries.filter fun s => !s.property.trim.isEmpty
  let summary := if summaries.isEmpty then []
    else "    summaries:".toList :: summaries.map fun s =>
      "      ".toList ++ s.property.trim ++ ": ".toList ++ s.summary
  Text.dropFinalNewlines (
    Document.unlines (keys ++ limit ++ order) ++
      arrangementBlock Document.renderSort form.sortBy sortDirection ++
      arrangementBlock Document.renderGroupBy form.groupBy groupDirection ++
      Document.unlines summary)

def render (form : Form) : Except Error Text := do
  form.check
  let formulas ← keptFormulas form.formulas
  let sortDirection ← direction? .sort form.sortDirection
  let groupDirection ← direction? .group form.groupDirection
  let filters := if form.predicates.isEmpty then []
    else [Document.renderFilters form.predicates form.logic]
  return Text.join "\n\n".toList (filters ++ formulaBlocks formulas ++
    [form.viewBlock formulas sortDirection groupDirection])

end Form

end Notebase
