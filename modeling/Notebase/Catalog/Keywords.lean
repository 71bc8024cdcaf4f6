import Notebase.Dict
import Notebase.Text.Case

/-!
Choosing a category by keywords. A category scores one for each of its keywords that occurs in
the text in any letter case; the highest score wins, and of equal scores the one that is listed
first.
-/

namespace Notebase

/-- Categories with their keywords, in the order of their priority. -/
abbrev KeywordTable := List (Text × List Text)

namespace KeywordTable

def score (keywords : List Text) (t : Text) : Nat :=
  (keywords.filter fun keyword => Text.occursIn keyword.lower t.lower).length

def scores (table : KeywordTable) (t : Text) : Dict Text Nat :=
  Dict.ofList (table.map fun (category, keywords) => (category, score keywords t))

/-- The best category among some that come after one with the score `least`: the first with the
highest score above it. -/
def bestAbove (t : Text) (least : Nat) : KeywordTable → Option Text
  | [] => none
  | (category, keywords) :: rest =>
      let s := score keywords t
      if least < s then some ((bestAbove t s rest).getD category) else bestAbove t least rest

def classify (table : KeywordTable) (t : Text) : Option Text := bestAbove t 0 table

end KeywordTable

end Notebase
