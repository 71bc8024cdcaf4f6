import Notebase.Json.Basic

/-!
Writing JSON over several lines, in ASCII: each part of a list or object stands on a line of its
own, two spaces deeper than the line that opens it.
-/

namespace Notebase.Json

def unitEscape (n : Nat) : Text := '\\' :: 'u' :: Text.hex 4 n

/-- A character inside a text; a character beyond the first plane is two units. -/
def escapeChar (c : Char) : Text :=
  if c = '"' || c = '\\' then ['\\', c]
  else if c = '\n' then ['\\', 'n']
  else if c = '\r' then ['\\', 'r']
  else if c = '\t' then ['\\', 't']
  else if c = '\x08' then ['\\', 'b']
  else if c = '\x0c' then ['\\', 'f']
  else if 0x20 ≤ c.toNat && c.toNat < 0x7F then [c]
  else if c.toNat < 0x10000 then unitEscape c.toNat
  else
    let n := c.toNat - 0x10000
    unitEscape (0xD800 + n / 0x400) ++ unitEscape (0xDC00 + n % 0x400)

def quoted (t : Text) : Text := '"' :: t.flatMap escapeChar ++ ['"']

def bracketed (opening closing : Char) (depth : Nat) (parts : List Text) : Text :=
  if parts.isEmpty then [opening, closing]
  else
    let newLine := fun n => '\n' :: Text.spaces (2 * n)
    opening :: newLine (depth + 1) ++ Text.join (',' :: newLine (depth + 1)) parts ++
      newLine depth ++ [closing]

mutual

/-- A value whose first line stands `depth` levels deep. -/
def prettyAt (depth : Nat) : Json → Text
  | .null => "null".toList
  | .bool b => (if b then "true" else "false").toList
  | .int n => Text.ofInt n
  | .float x => Number.text x
  | .str t => quoted t
  | .arr items => bracketed '[' ']' depth (prettyItems (depth + 1) items)
  | .obj members => bracketed '\x7b' '\x7d' depth (prettyMembers (depth + 1) members)

def prettyItems (depth : Nat) : List Json → List Text
  | [] => []
  | item :: rest => prettyAt depth item :: prettyItems depth rest

def prettyMembers (depth : Nat) : List (Text × Json) → List Text
  | [] => []
  | (key, value) :: rest =>
      (quoted key ++ ": ".toList ++ prettyAt depth value) :: prettyMembers depth rest

end

def pretty (j : Json) : Text := prettyAt 0 j

end Notebase.Json
