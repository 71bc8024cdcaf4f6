import Notebase.Document.Predicate

/-!
The blocks that are written the same way in a new document and in an edited one.
-/

namespace Notebase.Document

def unlines (ls : List Text) : Text := ls.flatMap (· ++ ['\n'])

def joinLines (ls : List Text) : Text := Text.join ['\n'] ls

def renderFilters (predicates : List Text) (conjunction : Text) : Text :=
  joinLines (["filters:".toList, "  ".toList ++ conjunction ++ ":".toList] ++
    predicates.map fun p => "    - ".toList ++ quotePredicate p)

/-- The sort block of a view whose keys stand `indent` spaces deep. -/
def renderSort (property direction : Text) (indent : Nat) : Text :=
  unlines [
    Text.spaces indent ++ "sort:".toList,
    Text.spaces indent ++ "  - property: ".toList ++ property,
    Text.spaces indent ++ "    direction: ".toList ++ direction]

/-- The grouping block of a view whose keys stand `indent` spaces deep. -/
def renderGroupBy (property direction : Text) (indent : Nat) : Text :=
  unlines [
    Text.spaces indent ++ "groupBy:".toList,
    Text.spaces indent ++ "  property: ".toList ++ property,
    Text.spaces indent ++ "  direction: ".toList ++ direction]

end Notebase.Document
