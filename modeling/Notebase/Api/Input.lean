import Notebase.Api.Handlers
import Notebase.Number.Whole

/-!
What the endpoints accept. A body is an object; its fields are texts, lists and whole numbers,
and a field of the wrong type, or a missing one that is needed, makes the whole body invalid.
Members that no field asks for are ignored.
-/

namespace Notebase.Api

/-! ### Fields -/

/-- A reader of a member of a body: none if the member is invalid. -/
abbrev Reader (α : Type) := Json → Option α

def readText : Reader Text
  | .str t => some t
  | _ => none

def readOptionalText : Reader (Option Text)
  | .null => some none
  | .str t => some (some t)
  | _ => none

def readList {α : Type} (read : Reader α) : Reader (List α)
  | .arr items => items.mapM read
  | _ => none

def readEntries : Reader (List Text)
  | .str t => some (Form.splitList t)
  | j => (readList readText j).map Form.entries

def readWholeFloat (x : Float) : Option Int :=
  match Number.parts x with
  | .finite b =>
      let unit := Nat.pow 2 (-b.exponent).toNat
      let n := b.mantissa * Nat.pow 2 b.exponent.toNat
      if n % unit = 0 && n / unit < Nat.pow 2 63 then
        some (if b.negative then -((n / unit : Nat) : Int) else (n / unit : Nat))
      else none
  | _ => none

def readWhole : Reader Int
  | .int n => some n
  | .bool b => some (if b then 1 else 0)
  | .float x => readWholeFloat x
  | .str t => Number.readWhole? t
  | _ => none

def readOptionalWhole : Reader (Option Int)
  | .null => some none
  | j => (readWhole j).map some

def needed {α : Type} (body : Json) (key : String) (read : Reader α) : Option α :=
  (body.get? key.toList).bind read

def orDefault {α : Type} (body : Json) (key : String) (read : Reader α) (default : α) :
    Option α :=
  match body.get? key.toList with
  | some j => read j
  | none => some default

/-! ### Bodies -/

def asObject : Option Json → Option Json
  | some (.obj members) => some (.obj members)
  | _ => none

/-- Reads the body of a generation request; the current document may be given under either of two
names. -/
def GenerateInput.ofJson? (body : Json) : Option GenerateInput := do
  let instruction ← orDefault body "instruction" readOptionalText none
  let key := if (body.get? "currentDocument".toList).isSome then "currentDocument"
    else "current_document"
  let document ← orDefault body key readOptionalText none
  return ⟨instruction, document⟩

def readInstruction (body : Json) : Option Text := needed body "instruction" readText

def readFormula (j : Json) : Option Form.Formula := do
  return ⟨← needed j "name" readText, ← needed j "expression" readText⟩

def readSummary (j : Json) : Option Form.Summary := do
  return ⟨← needed j "property" readText, ← needed j "summary" readText⟩

def readForm (body : Json) : Option Form := do
  let blank : Form := {}
  return {
    tags := ← orDefault body "tags" readEntries []
    folder := ← orDefault body "folder" readOptionalText none
    logic := ← orDefault body "logic" readText blank.logic
    formulas := ← orDefault body "formulas" (readList readFormula) []
    properties := ← orDefault body "properties" (readList readText) blank.properties
    customProperties := ← orDefault body "custom_properties" readEntries []
    viewType := ← orDefault body "view_type" readText blank.viewType
    viewName := ← orDefault body "view_name" readOptionalText none
    limit := ← orDefault body "limit" readOptionalWhole none
    sortBy := ← orDefault body "sort_by" readOptionalText none
    sortDirection := ← orDefault body "sort_direction" readOptionalText none
    groupBy := ← orDefault body "group_by" readOptionalText none
    groupDirection := ← orDefault body "group_direction" readOptionalText none
    summaries := ← orDefault body "summaries" (readList readSummary) [] }

end Notebase.Api
