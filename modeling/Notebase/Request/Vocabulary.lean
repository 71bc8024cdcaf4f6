import Notebase.Text.Case

/-!
The words that a request is read by: the cues that announce names, the kinds of view, and the
words that are never a name themselves.
-/

namespace Notebase.Request

def columnCues : List String := ["show", "display", "add", "properties"]

def addCues : List String := ["add", "show", "include", "also", "display", "want", "need"]

def removeCues : List String := ["remove", "hide", "delete", "drop", "without"]

def viewWords : List String := [
  "table", "tables", "card", "cards", "list", "lists", "map", "maps",
  "view", "views", "gallery", "board"]

/-- Words that only connect a sentence. -/
def fillerWords : List String := [
  "a", "an", "the",
  "is", "are", "was", "were", "be", "been", "being", "do", "does", "did",
  "have", "has", "had", "can", "could", "should", "would", "will", "shall",
  "may", "might", "must",
  "and", "or", "but", "also", "too", "plus", "with", "without", "by", "of",
  "to", "in", "on", "for", "from", "as", "at", "then", "that", "which",
  "all", "each", "every", "me", "my", "i", "it", "its", "them", "their",
  "please", "only", "just", "some", "any", "more", "new", "well", "how",
  "column", "columns", "field", "fields", "property", "properties",
  "note", "notes", "file", "files", "ascending", "descending", "asc",
  "desc", "order",
  "show", "display", "add", "include", "want", "need", "see", "remove",
  "hide", "delete", "drop", "us", "you"]

def noiseWords : List Text := (fillerWords ++ viewWords).map String.toList

/-- Whether a word is not the name of anything, in any letter case. -/
def isNoise (word : Text) : Bool := noiseWords.contains word.lower

def tagStopWords : List Text := ["filter", "filters"].map String.toList

def nameStopWords : List String := [
  "asc", "ascending", "desc", "descending", "and", "then", "with", "in", "as", "grouped",
  "group", "sorted", "sort", "ordered", "tagged", "first", "last", "order", "limit", "from",
  "where", "please", "but", "named", "called"]

def isOpeningQuote (c : Char) : Bool := "\"'“‘".toList.contains c

def isClosingQuote (c : Char) : Bool := "\"'”’".toList.contains c

def isQuote (c : Char) : Bool := isOpeningQuote c || isClosingQuote c

def isNamePunctuation (c : Char) : Bool := " .,;:!?".toList.contains c

end Notebase.Request
