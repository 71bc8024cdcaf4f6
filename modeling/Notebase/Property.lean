import Notebase.Dict
import Notebase.Text.Case

/-!
Property references. Every note has a few built-in properties, which people call by several
names; any other name is taken for a property that the notes define themselves.
-/

namespace Notebase.Property

def commonNames : List (String × String) := [
  ("name", "file.name"),
  ("file name", "file.name"),
  ("filename", "file.name"),
  ("size", "file.size"),
  ("file size", "file.size"),
  ("folder", "file.folder"),
  ("created", "file.ctime"),
  ("modified", "file.mtime"),
  ("tags", "file.tags"),
  ("links", "file.links"),
  ("extension", "file.ext"),
  ("ext", "file.ext")]

/-- The names of built-in properties with the references they stand for. A reference also
stands for itself. -/
def aliases : Dict Text Text :=
  Dict.ofList
    ((commonNames.map fun (name, ref) => (name.toList, ref.toList)) ++
      commonNames.map fun (_, ref) => (ref.toList, ref.toList))

/-- The reference that a name stands for. Blanks around and between its words do not matter,
and the names of built-in properties are read in any letter case. -/
def resolve (name : Text) : Text :=
  let cleaned := Text.unwords (Text.words name)
  (aliases.get? cleaned.lower).getD cleaned

end Notebase.Property
