import Notebase.Text.Utf8

/-!
Paths of the API. A path is read with its percent escapes undone. It leads to at most one
endpoint, which answers one method only, or to a page about the API; a path with slashes too many
at its end leads to the path without them.
-/

namespace Notebase.Api

/-! ### Percent escapes -/

def hexDigit? (c : Char) : Option Nat :=
  if c.isDigit then some (c.toNat - '0'.toNat)
  else if 'a' ≤ c && c ≤ 'f' then some (c.toNat - 'a'.toNat + 10)
  else if 'A' ≤ c && c ≤ 'F' then some (c.toNat - 'A'.toNat + 10)
  else none

def pathBytes : Text → List Nat
  | '%' :: a :: b :: t =>
      match hexDigit? a, hexDigit? b with
      | some x, some y => (16 * x + y) :: pathBytes t
      | _, _ => utf8OfChar '%' ++ pathBytes (a :: b :: t)
  | c :: t => utf8OfChar c ++ pathBytes t
  | [] => []

def decodePath (path : Text) : Text := Text.ofUtf8 (pathBytes path)

/-! ### Endpoints -/

inductive Endpoint where
  | generate
  | build
  | instruct
  | reset
  | templates
  | select (id : Text)
  | health
deriving DecidableEq, Repr

def Endpoint.method : Endpoint → Text
  | .templates | .health => "GET".toList
  | _ => "POST".toList

def Endpoint.at? (path : Text) : Option Endpoint :=
  match (path.splitOnP (· == '/')).map String.ofList with
  | ["", "api", "generate"] => some .generate
  | ["", "api", "build"] => some .build
  | ["", "api", "instruct"] => some .instruct
  | ["", "api", "reset"] => some .reset
  | ["", "api", "templates"] => some .templates
  | ["", "api", "health"] => some .health
  | ["", "api", "templates", id, "select"] =>
      if id.isEmpty then none else some (.select id.toList)
  | _ => none

/-! ### Destinations -/

inductive Destination where
  | endpoint (e : Endpoint)
  | page
  | withoutSlash
  | nowhere
deriving DecidableEq, Repr

def pages : List String := ["/docs", "/docs/oauth2-redirect", "/redoc", "/openapi.json"]

def dropLineEnd (path : Text) : Text := if path.getLast? = some '\n' then path.dropLast else path

def Destination.exact (path : Text) : Destination :=
  let path := dropLineEnd path
  match Endpoint.at? path with
  | some e => .endpoint e
  | none => if pages.contains (String.ofList path) then .page else .nowhere

def Destination.find (path : Text) : Destination :=
  let decoded := decodePath path
  match exact decoded with
  | .nowhere =>
      if exact (dropEndWhile (· == '/') decoded) = .nowhere then .nowhere else .withoutSlash
  | found => found

end Notebase.Api
