import Notebase.Api.Address
import Notebase.Api.Handlers
import Notebase.Api.Input
import Notebase.Api.Path

/-!
The API over HTTP, as it is run. A request names a method and an address and may have a body; one
that leads to no endpoint, or whose body is invalid, calls no handler, and one with an address that
is no address is not even sent. This is one framework in front of the handlers (`framework`).
-/

namespace Notebase.Api

structure Request where
  method : Text
  address : Text
  body : Option Json := none

/-- What becomes of a request: a response, or a reason why it is not sent. -/
abbrev Outcome := Except Address.Error Response

/-! ### Calls -/

/-- The call that a body makes of an endpoint; none if the body is invalid. -/
def Endpoint.call? (body : Option Json) : Endpoint → Option Call
  | .generate => ((asObject body).bind GenerateInput.ofJson?).map .generate
  | .build => ((asObject body).bind readForm).map .build
  | .instruct => ((asObject body).bind readInstruction).map .instruct
  | .reset => some .reset
  | .templates => some .templates
  | .select id => some (.select id)
  | .health => some .health

def Request.reaches? (r : Request) : Option Endpoint :=
  match Address.path? r.address with
  | .error _ => none
  | .ok path =>
      match Destination.find path with
      | .endpoint e => if e.method = Text.upper r.method then some e else none
      | _ => none

def Request.call? (r : Request) : Option Call := r.reaches?.bind (·.call? r.body)

/-! ### Responses -/

def invalid : Response := ⟨422, .explanation⟩

def wrongMethod : Response := detail 405 "Method Not Allowed".toList

/-- A response as the method lets it be sent: what it carries is not asked for by a request for
its head. -/
def Response.to (method : Text) (r : Response) : Response :=
  if method = "HEAD".toList then { r with content := .nothing } else r

/-! ### Requests -/

section Serve

variable {τ : Type} (handlers : Call → τ → Response × τ)

/-- Responds to a request for a path with a method in capital letters. -/
def respond (method path : Text) (body : Option Json) (state : τ) : Response × τ :=
  match Destination.find path with
  | .nowhere => (detail 404 "Not Found".toList, state)
  | .withoutSlash => (⟨307, .nothing⟩, state)
  | .page =>
      (if method = "GET".toList || method = "HEAD".toList then ⟨200, .page⟩ else wrongMethod, state)
  | .endpoint e =>
      if e.method = method then
        match e.call? body with
        | some call => handlers call state
        | none => (invalid, state)
      else (wrongMethod, state)

def serve (request : Request) (state : τ) : Outcome × τ :=
  match Address.path? request.address with
  | .error e => (.error e, state)
  | .ok path =>
      let method := Text.upper request.method
      let (response, state) := respond handlers method path request.body state
      (.ok (response.to method), state)

end Serve

def framework {τ : Type} : Framework Request Outcome τ where
  call? := Request.call?
  serve := serve

/-- Answers a request: what becomes of it, and the session and generator afterwards. -/
def handle {σ : Type} (server : Server σ) (state : Session × σ) (request : Request) :
    Outcome × Session × σ := serve server.answer request state

def handleAll {σ : Type} (server : Server σ) (state : Session × σ) (requests : List Request) :
    List Outcome × Session × σ := framework.serveAll server.answer state requests

end Notebase.Api
