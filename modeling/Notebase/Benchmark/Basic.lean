import Notebase.Catalog.Builtin
import Notebase.Document.Inspect
import Notebase.Json.Basic
import Notebase.Session

/-!
Benchmarks of the studio. A case gives the instructions of one session and says what the final
document has to show; checking it lists everything that is not as expected.
-/

namespace Notebase.Benchmark

/-- A session and what is expected at its end. What is empty or absent is not checked. -/
structure Case where
  name : Text
  instructions : List Text
  route : Option Text := none
  tag : Option Text := none
  folder : Option Text := none
  viewType : Option Text := none
  inOrder : List Text := []
  notInOrder : List Text := []
  sort : Option (Dict Text Text) := none
  groupBy : Option Text := none
  viewName : Option Text := none

/-- Something that is not as expected, with what was found and what was expected. -/
inductive Failure where
  | error (message : Text)
  | route (found : Option Text) (expected : Text)
  | noTag (expected : Text)
  | noFolder (expected : Text)
  | viewType (found : Option Text) (expected : Text)
  | notInOrder (property : Text) (order : List Text)
  | inOrder (property : Text)
  | sort (found : List (Dict Text Text)) (expected : Dict Text Text)
  | groupBy (found : Dict Text Text) (expected : Text)
  | viewName (found : Option Text) (expected : Text)
deriving DecidableEq, Repr

/-! ### How values are shown -/

def shownOption : Option Text → Text
  | none => "None".toList
  | some t => t.literal

def shownDict (d : Dict Text Text) : Text := Json.shown (.obj (d.map fun (k, v) => (k, .str v)))

def shownDicts (ds : List (Dict Text Text)) : Text :=
  '[' :: Text.join ", ".toList (ds.map shownDict) ++ [']']

/-- The sentence that reports a failure. -/
def Failure.message : Failure → Text
  | .error message => "error: ".toList ++ message
  | .route found expected =>
      "route ".toList ++ shownOption found ++ " != ".toList ++ expected.literal
  | .noTag expected => "missing tag predicate for ".toList ++ expected.literal
  | .noFolder expected => "missing folder predicate for ".toList ++ expected.literal
  | .viewType found expected =>
      "view type ".toList ++ shownOption found ++ " != ".toList ++ expected.literal
  | .notInOrder property order =>
      property.literal ++ " not in order ".toList ++ Text.literalList order
  | .inOrder property => property.literal ++ " unexpectedly in order".toList
  | .sort found expected =>
      "sort ".toList ++ shownDicts found ++ " lacks ".toList ++ shownDict expected
  | .groupBy found expected =>
      "groupBy ".toList ++ shownDict found ++ " != ".toList ++ expected.literal
  | .viewName found expected =>
      "name ".toList ++ shownOption found ++ " != ".toList ++ expected.literal

/-! ### Checking -/

/-- Two dictionaries that say the same, in whatever order. -/
def sameDict (d e : Dict Text Text) : Bool :=
  d.length == e.length && d.all fun (k, v) => e.get? k == some v

def expect {α : Type} (expected : Option α) (isAsExpected : α → Bool) (failure : α → Failure) :
    List Failure :=
  match expected with
  | none => []
  | some a => if isAsExpected a then [] else [failure a]

/-- What is not as expected after a session that ended with this response, if it had any
instruction. -/
def check (c : Case) (response : Option Session.Response) : List Failure :=
  let t := (response.bind (·.document)).getD []
  let filters := Document.filterEntries t
  let order := Document.viewOrder t
  let route := (response.bind (·.route)).map Route.label
  let errors := match response.bind (·.error) with
    | some e => [Failure.error e.message]
    | none => []
  let group := (Document.viewGroupBy? t).getD []
  let predicate := fun test value : Text =>
    Document.callFront test ++ value ++ "\")".toList
  errors ++
    expect (Text.given? c.route) (fun r => route == some r) (.route route) ++
    expect (Text.given? c.tag) (fun tag => filters.contains (predicate "hasTag".toList tag))
      .noTag ++
    expect (Text.given? c.folder)
      (fun folder => filters.contains (predicate "inFolder".toList folder)) .noFolder ++
    expect (Text.given? c.viewType) (fun kind => Document.viewType? t == some kind)
      (.viewType (Document.viewType? t)) ++
    ((c.inOrder.filter (!order.contains ·)).map fun property => .notInOrder property order) ++
    ((c.notInOrder.filter order.contains).map .inOrder) ++
    expect (c.sort.bind fun d => if d.isEmpty then none else some d)
      (fun d => (Document.viewSort t).any (sameDict d)) (.sort (Document.viewSort t)) ++
    expect (Text.given? c.groupBy) (fun property => group.get? "property".toList == some property)
      (.groupBy group) ++
    expect (Text.given? c.viewName) (fun name => Document.viewName? t == some name)
      (.viewName (Document.viewName? t))

/-! ### Running -/

/-- The studio that cases run in: local, over the built-in catalog. -/
def studio : Studio Unit where
  catalog := Catalog.builtin
  generator := none
  wishedMode := .local

def lastResponse (s : Session) (last : Option Session.Response) :
    List Text → Option Session.Response
  | [] => last
  | instruction :: rest =>
      let ((s, response), _) := Session.submit studio () s instruction
      lastResponse s (some response) rest

structure Result where
  name : Text
  failures : List Failure
  route : Option Text
deriving DecidableEq, Repr

def Result.passed (r : Result) : Bool := r.failures.isEmpty

def run (c : Case) : Result :=
  let response := lastResponse .fresh none c.instructions
  { name := c.name
    failures := check c response
    route := (response.bind (·.route)).map Route.label }

end Notebase.Benchmark
