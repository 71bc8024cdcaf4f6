import Notebase.Text.Literal

/-!
Addresses of requests. In front of its path an address may name a scheme and a host, and after it
a query and a fragment; the server sees the path alone (`Address.path?`). Dots are taken out of
the path before it is sent, and a relative path starts at the root of the server.
-/

namespace Notebase.Api

structure Address where
  scheme : Text
  authority : Text
  path : Text
deriving DecidableEq, Repr

namespace Address

/-- Why nothing is sent to an address. -/
inductive Error where
  | tooLong
  | control (c : Char) (position : Nat)
  | doubleSlash
  | colon
  | scheme (name : Text)
deriving DecidableEq, Repr

def Error.message : Error → Text
  | .tooLong => "URL too long".toList
  | .control c position =>
      "Invalid non-printable ASCII character in URL, ".toList ++ Text.literal [c] ++
        " at position ".toList ++ Text.ofNat position ++ ['.']
  | .doubleSlash => "Relative URLs cannot have a path starting with '//'".toList
  | .colon => "Relative URLs cannot have a path starting with ':'".toList
  | .scheme name => name

/-! ### Parts -/

def maxLength : Nat := 65536

def isControl (c : Char) : Bool := c.toNat < 0x20 || c.toNat == 0x7F

def isSchemeChar (c : Char) : Bool := c.isAlphanum || c == '+' || c == '.' || c == '-'

/-- A character of a part that a slash, a query or a fragment ends. -/
def isAuthorityChar (c : Char) : Bool := c != '/' && c != '?' && c != '#'

def isPathChar (c : Char) : Bool := c != '?' && c != '#'

/-- The scheme in front of an address, in small letters, and what follows it. A colon at the
start ends an empty scheme. -/
def splitScheme (t : Text) : Text × Text :=
  let name := t.takeWhile isSchemeChar
  match t.dropWhile isSchemeChar with
  | ':' :: rest => if name.head?.all Char.isAlpha then (name.map Char.toLower, rest) else ([], t)
  | _ => ([], t)

def ofText (t : Text) : Address :=
  let (scheme, rest) := splitScheme t
  match rest with
  | '/' :: '/' :: rest =>
      ⟨scheme, rest.takeWhile isAuthorityChar,
        (rest.dropWhile isAuthorityChar).takeWhile isPathChar⟩
  | rest => ⟨scheme, [], rest.takeWhile isPathChar⟩

def namesHost (authority : Text) : Bool :=
  ((authority.reverse.takeWhile (· != '@')).reverse).head?.any (· != ':')

def isBare (a : Address) : Bool :=
  a.scheme.isEmpty && a.authority.all fun c => c == '@' || c == ':'

/-! ### Paths -/

/-- The segments of a path without those that are dots: two dots take the segment before them
with them, except for an empty one at the start. `kept` lists the segments before, the last one
first. -/
def dropDots (kept : List Text) : List Text → List Text
  | [] => kept.reverse
  | segment :: rest =>
      if segment = ['.'] then dropDots kept rest
      else if segment = ['.', '.'] then
        dropDots (if kept = [[]] then kept else kept.tail) rest
      else dropDots (segment :: kept) rest

def normal (path : Text) : Text := Text.join ['/'] (dropDots [] (path.splitOnP (· == '/')))

/-- A path that is written on its own, read from the root. -/
def fromRoot (path : Text) : Text := normal ('/' :: path.dropWhile (· == '/'))

/-- The path that is sent, which has at least a slash. -/
def sent (path : Text) : Text := if path.isEmpty then ['/'] else path

/-- The path that a server is asked for. -/
def path? (t : Text) : Except Error Text :=
  if maxLength < t.length then .error .tooLong
  else
    match splitFirst? isControl t with
    | some (before, c, _) => .error (.control c before.length)
    | none =>
        let a := ofText t
        if a.isBare then
          match a.path with
          | '/' :: '/' :: _ => .error .doubleSlash
          | ':' :: _ => .error .colon
          | path => .ok (sent (fromRoot path))
        else if a.scheme.isEmpty || !namesHost a.authority then
          .ok (sent (fromRoot (normal a.path)))
        else if a.scheme = "http".toList || a.scheme = "https".toList then
          .ok (sent (normal a.path))
        else .error (.scheme a.scheme)

end Address

end Notebase.Api
