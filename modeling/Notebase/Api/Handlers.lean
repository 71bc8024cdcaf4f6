import Notebase.Form
import Notebase.Json.Basic
import Notebase.Session

/-!
The handlers of the API. Two of them write a document for whoever asks, from an instruction or from a
form; the others drive the one session of the server. What stands in front of them is left open: a
`Framework` finds out which handler a request is for and with which values, and sends on what the
handler responds.
-/

namespace Notebase.Api

/-- What a response carries: a value, an explanation that is not specified, a page to read, or
nothing. -/
inductive Content where
  | json (value : Json)
  | explanation
  | page
  | nothing

structure Response where
  status : Nat
  content : Content

/-- What the generation endpoint is asked: an instruction and a current document. -/
structure GenerateInput where
  instruction : Option Text
  document : Option Text
deriving DecidableEq, Repr

/-- A call of a handler, with the values that it takes. -/
inductive Call where
  | generate (input : GenerateInput)
  | build (form : Form)
  | instruct (instruction : Text)
  | reset
  | templates
  | select (id : Text)
  | health

/-- A server: the studio of its session, and the generator of the generation endpoint with the
key that it needs. -/
structure Server (σ : Type) where
  studio : Studio σ
  writer : Generator σ
  apiKey : Option Text

/-! ### Bodies of responses -/

def object (members : List (String × Json)) : Json :=
  .obj (members.map fun (key, value) => (key.toList, value))

def word (w : String) : Json := .str w.toList

def optional {α : Type} (f : α → Json) : Option α → Json
  | none => .null
  | some a => f a

def ok (body : Json) : Response := ⟨200, .json body⟩

def refuse (status : Nat) (message : Text) : Response :=
  ⟨status, .json (object [("error", .str message)])⟩

def detail (status : Nat) (message : Text) : Response :=
  ⟨status, .json (object [("detail", .str message)])⟩

def documentBody (t : Text) : Json := object [("document", .str t)]

def requestBody (r : Notebase.Request) : Json := object [
  ("tag", optional .str r.tag),
  ("folder", optional .str r.folder),
  ("view_type", optional .str r.viewType),
  ("properties", optional (fun names => .arr (names.map .str)) r.properties),
  ("sort", optional (fun s => object [
    ("property", .str s.property), ("direction", .str s.direction)]) r.sorting),
  ("group_by", optional .str r.groupBy),
  ("rename_to", optional .str r.renameTo)]

def sessionBody (r : Session.Response) : Json := object [
  ("success", .bool r.error.isNone),
  ("document", optional .str r.document),
  ("route", optional (fun route => .str route.label) r.route),
  ("template_id", optional .str r.templateId),
  ("entities", optional requestBody r.request),
  ("applied", .arr (r.applied.map fun step => .str step.label)),
  ("error", optional (fun e => .str e.message) r.error)]

def templateBody (id : Text) (template : Template) : Json := object [
  ("id", .str id), ("label", .str template.label), ("description", .str template.description)]

/-! ### Handlers -/

def generate {σ : Type} (server : Server σ) (g : σ) (input : GenerateInput) : Response × σ :=
  match (input.instruction.getD []).trim, Text.given? server.apiKey with
  | [], _ => (refuse 400 "Missing instruction".toList, g)
  | _, none =>
      (refuse 500
        "API key not configured. Set OPENAI_API_KEY in the environment or .env.".toList, g)
  | instruction, _ =>
      match server.writer g instruction input.document with
      | (.text (some (c :: t)), g) => (ok (documentBody (c :: t)), g)
      | (.text _, g) => (refuse 502 "AI service returned an empty document.".toList, g)
      | (_, g) => (refuse 502 "AI service error. Please try again.".toList, g)

def build (form : Form) : Response :=
  match form.render with
  | .ok t => ok (documentBody t)
  | .error e => refuse 400 e.message

def select (catalog : Catalog) (s : Session) (id : Text) : Response × Session :=
  match catalog.templates.get? id, Session.select? catalog id with
  | some template, some (s, _) => (ok (templateBody id template), s)
  | _, _ => (detail 404 ("Unknown template '".toList ++ id ++ ['\'']), s)

/-- Answers a call: the response, and the session and the generators afterwards. -/
def Server.answer {σ : Type} (server : Server σ) (call : Call) (state : Session × σ) :
    Response × Session × σ :=
  let (s, g) := state
  match call with
  | .generate input =>
      let (response, g) := generate server g input
      (response, s, g)
  | .build form => (build form, s, g)
  | .instruct instruction =>
      let ((s, response), g) := Session.submit server.studio g s instruction
      (ok (sessionBody response), s, g)
  | .reset => (ok (object [("success", .bool true)]), .fresh, g)
  | .templates =>
      (ok (.arr (server.studio.catalog.templates.map fun (id, t) => templateBody id t)), s, g)
  | .select id =>
      let (response, s) := select server.studio.catalog s id
      (response, s, g)
  | .health =>
      (ok (object [("status", word "healthy"), ("service", word "Base Studio"),
        ("mode", .str server.studio.mode.label)]), s, g)

/-! ### In front of the handlers -/

/-- What stands in front of handlers with a state `τ`: the call that a request makes, if it is routed
and valid, and the way a request is served with some handlers, which ends in an outcome. -/
structure Framework (ρ ω τ : Type) where
  call? : ρ → Option Call
  serve : (Call → τ → Response × τ) → ρ → τ → ω × τ

namespace Framework

variable {ρ ω τ : Type}

/-- What is relied on. A request that fails routing or validation never reaches a handler, and any
other one has the response of the one handler that it calls sent on. -/
structure Faithful (framework : Framework ρ ω τ) : Prop where
  turnedDown : ∀ r, framework.call? r = none →
    ∃ outcome, ∀ handlers state, framework.serve handlers r state = (outcome, state)
  called : ∀ r call, framework.call? r = some call →
    ∃ send : Response → ω, ∀ handlers state, framework.serve handlers r state =
      (send (handlers call state).1, (handlers call state).2)

def serveAll (framework : Framework ρ ω τ) (handlers : Call → τ → Response × τ) (state : τ) :
    List ρ → List ω × τ
  | [] => ([], state)
  | request :: rest =>
      let (outcome, state) := framework.serve handlers request state
      let (outcomes, state) := framework.serveAll handlers state rest
      (outcome :: outcomes, state)

end Framework

end Notebase.Api
