import Notebase.Text.Literal

/-!
What may be wrong with the writing of a regular expression, and how it is explained. Most faults
stand at a position of the expression.
-/

namespace Notebase.Regex

/-- What is wrong. -/
inductive Cause where
  | loneBackslash
  | incompleteEscape (escape : Text)
  | missingBrace
  | missingName (kind : String)
  | unterminatedName (terminator : Char)
  | unknownCharacter (name : Text)
  | octalTooGreat (escape : Text)
  | badEscape (escape : Text)
  | openGroup
  | groupInLookbehind
  | unknownGroup (n : Nat)
  | unterminatedClass
  | badRange (first last : Text)
  | leastBeyondMost
  | nothingToRepeat
  | repeatedTwice
  | tooOften
  | endOfPattern
  | badGroupName (name : Text)
  | unknownGroupName (name : Text)
  | unknownExtension (extension : Text)
  | unterminatedComment
  | unterminatedGroup
  | badGroupNumber
  | tooManyBranches
  | lateFlags
  | nameTaken (name : Text) (n earlier : Nat)
  | localeFlag
  | incompatibleFlags
  | unknownFlag
  | missingFlagEnd
  | missingFlag
  | missingColon
  | globalFlagOn
  | globalFlagOff
  | typeFlagOff
  | flagOnAndOff
  | unbalanced
  | looksTooFarBack
  | variableLookbehind
deriving DecidableEq, Repr

/-- How a cause is worded. -/
def Cause.message : Cause → Text
  | .loneBackslash => "bad escape (end of pattern)".toList
  | .incompleteEscape escape => "incomplete escape ".toList ++ escape
  | .missingBrace => "missing \x7b".toList
  | .missingName kind => "missing ".toList ++ kind.toList
  | .unterminatedName terminator => "missing ".toList ++ [terminator] ++ ", unterminated name".toList
  | .unknownCharacter name => "undefined character name ".toList ++ name.literal
  | .octalTooGreat escape =>
      "octal escape value ".toList ++ escape ++ " outside of range 0-0o377".toList
  | .badEscape escape => "bad escape ".toList ++ escape
  | .openGroup => "cannot refer to an open group".toList
  | .groupInLookbehind =>
      "cannot refer to group defined in the same lookbehind subpattern".toList
  | .unknownGroup n => "invalid group reference ".toList ++ Text.ofNat n
  | .unterminatedClass => "unterminated character set".toList
  | .badRange first last => "bad character range ".toList ++ first ++ ['-'] ++ last
  | .leastBeyondMost => "min repeat greater than max repeat".toList
  | .nothingToRepeat => "nothing to repeat".toList
  | .repeatedTwice => "multiple repeat".toList
  | .tooOften => "the repetition number is too large".toList
  | .endOfPattern => "unexpected end of pattern".toList
  | .badGroupName name => "bad character in group name ".toList ++ name.literal
  | .unknownGroupName name => "unknown group name ".toList ++ name.literal
  | .unknownExtension extension => "unknown extension ?".toList ++ extension
  | .unterminatedComment => "missing ), unterminated comment".toList
  | .unterminatedGroup => "missing ), unterminated subpattern".toList
  | .badGroupNumber => "bad group number".toList
  | .tooManyBranches => "conditional backref with more than two branches".toList
  | .lateFlags => "global flags not at the start of the expression".toList
  | .nameTaken name n earlier =>
      "redefinition of group name ".toList ++ name.literal ++ " as group ".toList ++
        Text.ofNat n ++ "; was group ".toList ++ Text.ofNat earlier
  | .localeFlag => "bad inline flags: cannot use 'L' flag with a str pattern".toList
  | .incompatibleFlags => "bad inline flags: flags 'a', 'u' and 'L' are incompatible".toList
  | .unknownFlag => "unknown flag".toList
  | .missingFlagEnd => "missing -, : or )".toList
  | .missingFlag => "missing flag".toList
  | .missingColon => "missing :".toList
  | .globalFlagOn => "bad inline flags: cannot turn on global flag".toList
  | .globalFlagOff => "bad inline flags: cannot turn off global flag".toList
  | .typeFlagOff => "bad inline flags: cannot turn off flags 'a', 'u' and 'L'".toList
  | .flagOnAndOff => "bad inline flags: flag turned on and off".toList
  | .unbalanced => "unbalanced parenthesis".toList
  | .looksTooFarBack => "looks too much behind".toList
  | .variableLookbehind => "look-behind requires fixed-width pattern".toList

/-- A cause and where it stands, if it stands anywhere. -/
structure Fault where
  cause : Cause
  position : Option Nat := none
deriving DecidableEq, Repr

/-- A position of an expression. In an expression of several lines the line and the column are
told too, both counted from one. -/
def placeText (pattern : Text) (position : Nat) : Text :=
  let front := pattern.take position
  let line := front.count '\n' + 1
  let column := (front.reverse.takeWhile (· != '\n')).length + 1
  " at position ".toList ++ Text.ofNat position ++
    if pattern.contains '\n' then
      " (line ".toList ++ Text.ofNat line ++ ", column ".toList ++ Text.ofNat column ++ [')']
    else []

structure Error where
  pattern : Text
  fault : Fault
deriving DecidableEq, Repr

def Error.message (e : Error) : Text :=
  e.fault.cause.message ++ (e.fault.position.map (placeText e.pattern)).getD []

end Notebase.Regex
