import Notebase.Generator.Chat
import Notebase.Generator.Service
import Notebase.Json.Pretty
import Notebase.Proofs.Api.Framework
import Notebase.Proofs.Session.Consult
import Notebase.Proofs.Text.Fence

/-!
The way of a document from a reply of the chat service into a session. In one process two readers
look for a fence around it, and between a server and its client there are three; the session ends
with the document that the reply holds on either way (`replies_reach_the_session`).
-/

namespace Notebase

open Text (Unfenced Holds)

/-! ### Over HTTP -/

namespace Service

def Payload.body (p : Payload) : Json :=
  Api.object (("instruction", .str p.instruction) ::
    p.document.toList.map fun t => ("currentDocument", .str t))

/-- An exchange with the generation endpoint of a server, whose session goes on with its generator.
A value is sent as `write` writes it. -/
def exchange {σ : Type} (server : Api.Server σ) (write : Json → Text) (state : Session × σ)
    (p : Payload) : Exchange × Session × σ :=
  let (outcome, state) :=
    Api.handle server state ⟨"POST".toList, "/api/generate".toList, some p.body⟩
  match outcome with
  | .error e => (.unreachable e.message, state)
  | .ok ⟨status, .json value⟩ => (.answered status (write value), state)
  | .ok ⟨status, _⟩ => (.answered status [], state)

end Service

/-! ### Each reader on the way -/

theorem Text.given?_given? (o : Option Text) : Text.given? (Text.given? o) = Text.given? o := by
  cases o with
  | none => rfl
  | some t => cases t <;> rfl

/-- The chat service is asked the same whether an empty document is handed over or none. -/
theorem Chat.completion_given? (model instruction : Text) (document : Option Text) :
    completion model instruction (Text.given? document) = completion model instruction document := by
  rw [completion, completion, userMessage, userMessage, Text.given?_given?]

/-- The generation endpoint reads an instruction and a document under its first name. -/
theorem Api.GenerateInput.ofJson?_of_get? {body : Json} {instruction : Text}
    {document : Option Text} (given : body.get? "instruction".toList = some (.str instruction))
    (current : body.get? "currentDocument".toList = document.map .str)
    (other : body.get? "current_document".toList = none) :
    ofJson? body = some ⟨some instruction, document⟩ := by
  rw [ofJson?, orDefault, given]
  cases document with
  | none =>
      rw [Option.map_none] at current
      rw [current, Option.isSome_none, if_neg Bool.false_ne_true]
      simp only [orDefault, other]
      rfl
  | some t =>
      rw [Option.map_some] at current
      rw [current, Option.isSome_some, if_pos rfl]
      simp only [orDefault, current]
      rfl

/-- **What is posted** is what the endpoint reads. -/
theorem Service.readInput_body (p : Payload) :
    (Api.asObject (some p.body)).bind Api.GenerateInput.ofJson? =
      some ⟨some p.instruction, p.document⟩ := by
  obtain ⟨instruction, document⟩ := p
  cases document with
  | none => exact Api.GenerateInput.ofJson?_of_get? rfl rfl rfl
  | some t => exact Api.GenerateInput.ofJson?_of_get? rfl rfl rfl

section Replies

variable {σ : Type} {d r : Text} (unfenced : d.Unfenced)

include unfenced

/-- **The chat client** takes the document out of the reply. -/
theorem Chat.generator_of_holds (holds : Holds d r) {model : Text}
    {call : σ → Chat.Completion → Retry.Report × σ} {g : σ} {instruction : Text}
    {document : Option Text}
    (replied : (call g (completion model instruction document)).1.outcome = some (.value (some r))) :
    (generator model call g instruction document).1 = .text (some d) := by
  rw [generator]
  dsimp only
  rw [reply, replied]
  dsimp only
  rw [documentOf, Option.getD_some, holds.stripFence_eq unfenced]

/-- **The session** takes in the document of a reply. -/
theorem Session.takeIn_of_unfenced (s : Session) :
    (takeIn s (.text (some d))).1 = ⟨some d, none⟩ := by
  rw [takeIn]
  dsimp only
  rw [Option.getD_some, unfenced.stripFence_eq]
  cases d with
  | nil => exact absurd rfl unfenced.ne_nil
  | cons c t => rfl

/-- **The server** sends the document that its generator writes. -/
theorem Api.generate_of_writer {server : Api.Server σ} {key : Text}
    (key_ : Text.given? server.apiKey = some key) {g : σ} {input : GenerateInput}
    (written : (input.instruction.getD []).trim ≠ [])
    (reply : (server.writer g (input.instruction.getD []).trim input.document).1 =
      .text (some d)) :
    (generate server g input).1 = ok (documentBody d) := by
  obtain ⟨c, t, text⟩ := List.exists_cons_of_ne_nil written
  obtain ⟨c', d, rfl⟩ := List.exists_cons_of_ne_nil unfenced.ne_nil
  rw [text] at reply
  rw [generate, text, key_]
  dsimp only
  cases answer : server.writer g (c :: t) input.document with
  | mk reply' g' =>
      rw [answer] at reply
      cases reply
      rfl

/-- **The endpoint** answers a payload with the document that its generator writes. -/
theorem Service.exchange_of_writer {server : Api.Server σ} {key : Text}
    (key_ : Text.given? server.apiKey = some key) (write : Json → Text) {state : Session × σ}
    {p : Payload} (written : p.instruction.trim ≠ [])
    (reply : (server.writer state.2 p.instruction.trim p.document).1 = .text (some d)) :
    (exchange server write state p).1 = .answered 200 (write (Api.documentBody d)) := by
  let request : Api.Request := ⟨"POST".toList, "/api/generate".toList, some p.body⟩
  have method : Text.upper "POST".toList = "POST".toList := by decide
  have reaches : (Api.Request.mk "POST".toList "/api/generate".toList none).reaches? =
      some .generate := by decide
  have called : request.call? = some (.generate ⟨some p.instruction, p.document⟩) := by
    rw [Api.Request.call?_of_reaches (r := request) reaches, Api.Endpoint.call?, readInput_body]
    rfl
  have answer : (Api.generate server state.2 ⟨some p.instruction, p.document⟩).1 =
      Api.ok (Api.documentBody d) := Api.generate_of_writer unfenced key_ written reply
  rw [exchange, Api.handle, Api.serve_of_call called, Api.Server.answer]
  dsimp only
  rw [answer, method]
  rfl

/-- **The client** of a server takes the document out of the answer. -/
theorem Service.document?_of_answer {write : Json → Text}
    (carried : Json.read (Json.document (write (Api.documentBody d))) = .ok (Api.documentBody d)) :
    document? (.answered 200 (write (Api.documentBody d))) = .ok d := by
  have success : isFailure 200 = false := by decide
  have read : readBody (write (Api.documentBody d)) = .ok (Api.documentBody d) := by
    rw [readBody, carried]
  have said : said? "document".toList (Api.documentBody d) = some d := by
    obtain ⟨c, t, rfl⟩ := List.exists_cons_of_ne_nil unfenced.ne_nil
    rfl
  rw [document?, documentBy, read]
  dsimp only
  rw [success, if_neg Bool.false_ne_true, held, said, Option.getD_some, unfenced.stripFence_eq]
  cases d with
  | nil => exact absurd rfl unfenced.ne_nil
  | cons c t => rfl

/-! ### The whole way -/

section Ways

variable {model : Text} {call : σ → Chat.Completion → Retry.Report × σ} {s : Session}
  {instruction : Text} (holds : Holds d r)
include holds

/-- **In one process** the session asks the chat client. -/
theorem Session.submit_in_process {studio : Studio σ} {g : σ}
    (client : studio.generator = some (Chat.generator model call))
    (consults : Consults studio s instruction)
    (replied : (call g (Chat.completion model instruction.trim s.document)).1.outcome =
      some (.value (some r))) : (submit studio g s instruction).1.1 = ⟨some d, none⟩ := by
  rw [submit_of_consults consults client, Chat.generator_of_holds unfenced holds replied]
  exact takeIn_of_unfenced unfenced s

/-- **Over HTTP** the session asks the client of a server, and the server asks the chat client. -/
theorem Session.submit_over_http {server : Api.Server σ} {write : Json → Text}
    {studio : Studio (Session × σ)} {state : Session × σ} {key : Text}
    (client : studio.generator = some (Service.generator (Service.exchange server write)))
    (writer : server.writer = Chat.generator model call)
    (key_ : Text.given? server.apiKey = some key)
    (carried : Json.read (Json.document (write (Api.documentBody d))) = .ok (Api.documentBody d))
    (consults : Consults studio s instruction)
    (replied : (call state.2 (Chat.completion model instruction.trim s.document)).1.outcome =
      some (.value (some r))) : (submit studio state s instruction).1.1 = ⟨some d, none⟩ := by
  have trimmed : instruction.trim.trim = instruction.trim := (Text.trimmed_trim _).trim_eq
  have written : instruction.trim.trim ≠ [] := by
    rw [trimmed]
    exact consults.1
  -- The client leaves out an empty document, and the chat client asks the same without it.
  have reply : (server.writer state.2 instruction.trim.trim (Text.given? s.document)).1 =
      .text (some d) := by
    rw [trimmed, writer]
    refine Chat.generator_of_holds unfenced holds ?_
    rwa [Chat.completion_given?]
  have exchange := Service.exchange_of_writer unfenced key_ write
    (p := Service.payload instruction.trim s.document) written reply
  have answer : (Service.generator (Service.exchange server write) state instruction.trim
      s.document).1 = .text (some d) := by
    have document := Service.document?_of_answer unfenced carried
    rw [Service.document?] at document
    rw [Service.generator, Service.generatorBy]
    dsimp only
    rw [exchange, document]
  rw [submit_of_consults consults client, answer]
  exact takeIn_of_unfenced unfenced s

end Ways

end Replies

/-- **A reply reaches the session intact.** From a reply that holds a document, the document comes
out however often a fence is looked for. A session that consults a generator ends with it in one
process, where the chat client and the session look for a fence, and over HTTP, where the client
of the server looks for one in between. -/
theorem replies_reach_the_session {d r : Text} (unfenced : d.Unfenced) (holds : Holds d r) :
    (∀ n, Text.stripFence^[n + 1] r = d) ∧
    (∀ {σ : Type} (model : Text) (call : σ → Chat.Completion → Retry.Report × σ)
      (studio : Studio σ) (g : σ) (s : Session) (instruction : Text),
      studio.generator = some (Chat.generator model call) →
      Session.Consults studio s instruction →
      (call g (Chat.completion model instruction.trim s.document)).1.outcome =
        some (.value (some r)) →
      (Session.submit studio g s instruction).1.1 = ⟨some d, none⟩) ∧
    ∀ {σ : Type} (model : Text) (call : σ → Chat.Completion → Retry.Report × σ)
      (server : Api.Server σ) (write : Json → Text) (studio : Studio (Session × σ))
      (state : Session × σ) (s : Session) (instruction : Text),
      studio.generator = some (Service.generator (Service.exchange server write)) →
      server.writer = Chat.generator model call → Text.given? server.apiKey ≠ none →
      Json.read (Json.document (write (Api.documentBody d))) = .ok (Api.documentBody d) →
      Session.Consults studio s instruction →
      (call state.2 (Chat.completion model instruction.trim s.document)).1.outcome =
        some (.value (some r)) →
      (Session.submit studio state s instruction).1.1 = ⟨some d, none⟩ := by
  refine ⟨holds.stripFence_iterate unfenced, ?_, ?_⟩
  · intro σ model call studio g s instruction client consults replied
    exact Session.submit_in_process unfenced holds client consults replied
  · intro σ model call server write studio state s instruction client writer key carried consults
      replied
    obtain ⟨key, key_⟩ := Option.ne_none_iff_exists'.mp key
    exact Session.submit_over_http unfenced holds client writer key_ carried consults replied

def Json.line : Json → Text
  | .obj members =>
      let said := fun (key, value) => Json.quoted key ++ ':' :: match value with
        | .str t => Json.quoted t
        | _ => "null".toList
      '\x7b' :: Text.join [','] (members.map said) ++ ['\x7d']
  | _ => "null".toList

/-- A document that ends with a fence of its own comes in another fence, with blanks around it. -/
theorem fenced_reply_reaches_the_session :
    let d := "views:\n  ```x```".toList
    let r := " ```yaml-1 \t\nviews:\n  ```x```\n```\n".toList
    let call : Unit → Chat.Completion → Retry.Report × Unit :=
      fun g _ => (Chat.generate fun _ => .value (some r), g)
    let chat : Studio Unit := ⟨⟨[], [], []⟩, some (Chat.generator "m".toList call), .remote⟩
    let server : Api.Server Unit :=
      ⟨⟨⟨[], [], []⟩, none, .local⟩, Chat.generator "m".toList call, some "key".toList⟩
    let studio : Studio (Session × Unit) :=
      ⟨⟨[], [], []⟩, some (Service.generator (Service.exchange server Json.line)), .remote⟩
    Text.stripFence^[3] r = d ∧
      (Session.submit chat () .fresh " draw ".toList).1.1 = ⟨some d, none⟩ ∧
      (Session.submit studio (.fresh, ()) .fresh " draw ".toList).1.1 = ⟨some d, none⟩ := by
  intro d r call chat server studio
  have unfenced : Text.Unfenced d := by
    refine ⟨⟨by decide, ⟨by decide, by decide⟩⟩, by decide⟩
  have holds : Holds d r := @Holds.fenced d [' '] "yaml-1".toList " \t".toList ['\n'] ['\n']
    (by decide) (by decide) (by decide) (.inr rfl) (by decide)
  have carried : Json.read (Json.document (Json.line (Api.documentBody d))) =
      .ok (Api.documentBody d) := by rfl
  obtain ⟨strip, inProcess, overHttp⟩ := replies_reach_the_session unfenced holds
  exact ⟨strip 2, inProcess "m".toList call chat () .fresh _ rfl (by decide) rfl,
    overHttp "m".toList call server Json.line studio (.fresh, ()) .fresh _ rfl rfl (by decide)
      carried (by decide) rfl⟩

end Notebase
