import Notebase.Dict
import Notebase.Number.Format
import Notebase.Text.Literal

/-!
JSON values, which of them count as missing, and how one is shown inside a sentence.
-/

namespace Notebase

/-- A JSON value. Whole numbers are exact. -/
inductive Json where
  | null
  | bool (b : Bool)
  | int (n : Int)
  | float (x : Float)
  | str (t : Text)
  | arr (items : List Json)
  | obj (members : List (Text × Json))
deriving Inhabited

namespace Json

def get? (key : Text) : Json → Option Json
  | .obj members => Dict.get? key members
  | _ => none

/-- A value that says something: not null, false, zero or empty. -/
def isPresent : Json → Bool
  | .null => false
  | .bool b => b
  | .int n => n != 0
  | .float x => !(x == 0)
  | .str t => !t.isEmpty
  | .arr items => !items.isEmpty
  | .obj members => !members.isEmpty

mutual

def shown : Json → Text
  | .null => "None".toList
  | .bool b => (if b then "True" else "False").toList
  | .int n => Text.ofInt n
  | .float x => Number.text x
  | .str t => t.literal
  | .arr items => '[' :: Text.join ", ".toList (shownItems items) ++ [']']
  | .obj members => '\x7b' :: Text.join ", ".toList (shownMembers members) ++ ['\x7d']

def shownItems : List Json → List Text
  | [] => []
  | item :: rest => shown item :: shownItems rest

def shownMembers : List (Text × Json) → List Text
  | [] => []
  | (key, value) :: rest =>
      (key.literal ++ ": ".toList ++ shown value) :: shownMembers rest

end

/-- A value as a sentence shows it: a text as it is, anything else as inside a list. -/
def display : Json → Text
  | .str t => t
  | j => shown j

end Json

end Notebase
