import Notebase.Request.Vocabulary

/-!
Names as people write them in a sentence: quoted or not, with punctuation and with words around
them that are not part of the name.
-/

namespace Notebase.Request

def withoutQuotes (t : Text) : Text := ((t.trim).trimBy isQuote).trim

def withoutNoise (words : List Text) : List Text :=
  dropEndWhile isNoise (words.dropWhile isNoise)

/-- The name in a piece of a sentence, if there is one: quotation marks, then punctuation, then
noise words are dropped around it, and its words are put one space apart. -/
def cleanName (raw : Text) : Option Text :=
  match withoutNoise (Text.words ((withoutQuotes raw).trimBy isNamePunctuation)) with
  | [] => none
  | words => some (Text.unwords words)

end Notebase.Request
