import Notebase.Request.Vocabulary
import Notebase.Text.Pattern

/-!
The phrases by which a request names its parts. The subject of a match is the name that the
phrase is about.
-/

namespace Notebase.Request.Phrase

open Pattern

/-! ### Names inside phrases -/

/-- A character of a tag or folder name after its first. -/
def isPathChar (c : Char) : Bool := isWordChar c || c == '/' || c == '-'

def pathName : Pattern := .seq (.char isWordChar) (.run isPathChar)

def folderName : Pattern := oneOf [
  inOrder [exactly '"', .capture (run1 (· != '"')), exactly '"'],
  inOrder [exactly '\'', .capture (run1 fun c => c != '\'' && c != '"'), exactly '\''],
  .capture pathName]

def isNameChar (c : Char) : Bool := isWordChar c || c == '.' || c == '-'

/-- The name after "by": quoted, or words up to one that ends the name. -/
def byName : Pattern := .capture (oneOf [
  inOrder [exactly '"', run1 (· != '"'), exactly '"'],
  inOrder [exactly '\'', run1 (· != '\''), exactly '\''],
  .seq (run1 isNameChar)
    (.star (inOrder [
      blanks, .notAhead (.seq (words nameStopWords) .boundary), run1 isNameChar]))])

/-- The inside of a quoted name, as short as possible. -/
def quotedName : Pattern := inOrder [
  .char isOpeningQuote,
  .capture (lazyRun1 fun c => !"\"”’\n".toList.contains c),
  .char isClosingQuote]

def wordsThen (ws : List String) : Pattern := .seq (words ws) blanks

/-! ### Tags and folders -/

def tagLiteral : Pattern := inOrder [
  .notAfter fun c => isWordChar c || c == '&' || c == '#', exactly '#', .capture pathName]

def tagPhrase : Pattern := inOrder [
  .boundary, word "tag", opt (word "ged"), blanks,
  opt (wordsThen ["to", "with", "as"]), opt (wordsThen ["the"]),
  opt (.char fun c => c == '"' || c == '\''), .capture pathName]

def folderPhrase : Pattern := inOrder [
  .boundary, word "folder", blanks, opt (wordsThen ["named", "called"]), folderName]

def inPhrase : Pattern := inOrder [
  .boundary, word "in", blanks, opt (wordsThen ["the", "my", "a"]), folderName]

/-! ### Views, sorting and grouping -/

def wholeWord (w : String) : Pattern := inOrder [.boundary, word w, .boundary]

/-- The words for kinds of view, the first that occurs deciding. -/
def viewCues : List (String × Pattern) := [
  ("cards", inOrder [.boundary, word "card", opt (word "s"), .boundary]),
  ("list", wholeWord "list"),
  ("map", wholeWord "map"),
  ("table", wholeWord "table")]

/-- What follows "sort" or "group": the things that are arranged, "by" and the name. -/
def arrangedBy : Pattern := inOrder [
  opt (word "ed"), blanks, opt (wordsThen ["it", "them", "notes", "results", "everything"]),
  word "by", blanks, opt (wordsThen ["the"]), byName]

def sortPhrase : Pattern := inOrder [.boundary, words ["sort", "order"], arrangedBy]

def groupPhrase : Pattern := inOrder [.boundary, word "group", arrangedBy]

def descending : Pattern := inOrder [.boundary, word "desc", opt (word "ending"), .boundary]

def renamePhrase : Pattern := inOrder [
  .boundary, opt (word "re"), words ["name", "call", "title"], opt (words ["d", "ed"]), blanks,
  .star (wordsThen ["it", "this", "the", "view", "base", "table"]),
  opt (wordsThen ["to", "as"]), quotedName]

/-! ### Lists of names -/

def cue (cues : List Text) : Pattern := inOrder [
  .boundary, oneOf (cues.map letters), .boundary, opt (exactly ':'), blanks]

def cueWord (cues : List String) : Pattern := inOrder [.boundary, words cues, .boundary]

def quoted : Pattern := inOrder [.notAfter isWordChar, quotedName, .notAhead (.char isWordChar)]

def clauseBreak : Pattern := oneOf [
  .char fun c => ";!?\n".toList.contains c,
  .seq (.char fun c => c == '.' || c == ':') (.ahead (oneOf [.char isBlank, .atEnd])),
  inOrder [.char isBlank, exactly '-', .char isBlank],
  inOrder [
    opt (exactly ','), .run isBlank, .boundary,
    oneOf [
      .seq (word "sort") (opt (word "ed")),
      inOrder [word "order", opt (word "ed"), blanks, word "by"],
      .seq (word "group") (opt (word "ed")),
      words ["tagged", "in", "from", "where", "that", "which", "as", "for"],
      .seq (word "rename") (opt (word "d")),
      word "named",
      .seq (word "call") (opt (word "ed")),
      .seq (word "limit") (opt (word "ed")),
      words ["then", "but"]],
    .boundary]]

def listSeparator : Pattern := oneOf [
  exactly ',', exactly '&', exactly '+', wholeWord "and"]

end Notebase.Request.Phrase
