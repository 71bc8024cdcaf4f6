import Notebase.Generator.Basic
import Notebase.Json.Encoding
import Notebase.Json.Parse
import Notebase.Text.Fence

/-!
The generation service. One request is posted for each instruction, and either a document comes
back or a reason why there is none. How the body of an answer is read is left open (`documentBy`,
`generatorBy`); `readBody` is the reader that programs run with.
-/

namespace Notebase.Service

structure Payload where
  instruction : Text
  document : Option Text
deriving DecidableEq, Repr

def payload (instruction : Text) (document : Option Text) : Payload where
  instruction := instruction
  document := Text.given? document

/-- What comes back for a post: an answer with a status and a body, or nothing. -/
inductive Outcome (β : Type) where
  | answered (status : Int) (body : β)
  | unreachable (message : Text)
deriving DecidableEq, Repr

/-- Why a body is not read: it is not JSON, or the reader itself breaks down. -/
inductive Fault where
  | malformed
  | breakdown (message : Text)
deriving DecidableEq, Repr

inductive Error where
  | unreachable (message : Text)
  | reported (message : Text)
  | status (status : Int)
  | invalidJson
  | breakdown (message : Text)
  | emptyDocument
deriving DecidableEq, Repr

/-- What the person who gave the instruction is told. -/
def Error.message : Error → Text
  | .unreachable message => "Generation service unreachable: ".toList ++ message
  | .reported message => message
  | .status n => "Generation service returned HTTP ".toList ++ Text.ofInt n ++ ['.']
  | .invalidJson => "Generation service returned invalid JSON.".toList
  | .breakdown message => message
  | .emptyDocument => "Generation service returned an empty document.".toList

def isFailure (status : Int) : Bool := 400 ≤ status && status < 600

/-- What an object says under a key, if it says anything. -/
def said? (key : Text) (body : Json) : Option Text :=
  match body.get? key with
  | some j => if j.isPresent then some j.display else none
  | none => none

/-- What a body that reports a failure says: its own error, or the status. -/
def reported (status : Int) (body : Option Json) : Error :=
  match body.bind (said? "error".toList) with
  | some message => .reported message
  | none => .status status

def held (body : Json) : Except Error Text :=
  match ((said? "document".toList body).getD []).stripFence with
  | [] => .error .emptyDocument
  | document => .ok document

def Error.isRefusal : Error → Bool
  | .breakdown _ => false
  | _ => true

/-! ### Any reader of bodies -/

section Reader

variable {β : Type} (read : β → Except Fault Json)

/-- The document that comes back. Whatever the status is, the body is read; where the reader breaks
down, so does this. -/
def documentBy : Outcome β → Except Error Text
  | .unreachable message => .error (.unreachable message)
  | .answered status body =>
      match read body with
      | .error (.breakdown message) => .error (.breakdown message)
      | .error .malformed => .error (if isFailure status then reported status none else .invalidJson)
      | .ok j => if isFailure status then .error (reported status (some j)) else held j

def generatorBy {σ : Type} (post : σ → Payload → Outcome β × σ) : Generator σ :=
  fun g instruction document =>
    let (outcome, g) := post g (payload instruction document)
    match documentBy read outcome with
    | .ok t => (.text (some t), g)
    | .error e => (if e.isRefusal then .refusal e.message else .breakdown e.message, g)

end Reader

/-! ### One reader of bodies -/

def containerWord : Json.Container → Text
  | .array => "array".toList
  | .object => "object".toList

/-- Reads a body that is a text and whose encoding no header names. A reader of JSON has a stack of
its own, so this one breaks down over a body that is nested too deeply for it. -/
def readBody (body : Text) : Except Fault Json :=
  match Json.read (Json.document body) with
  | .ok j => .ok j
  | .error .malformed => .error .malformed
  | .error (.tooDeep container) =>
      .error (.breakdown ("maximum recursion depth exceeded while decoding a JSON ".toList ++
        containerWord container ++ " from a unicode string".toList))

abbrev Exchange := Outcome Text

def document? : Exchange → Except Error Text := documentBy readBody

def generator {σ : Type} (post : σ → Payload → Exchange × σ) : Generator σ :=
  generatorBy readBody post

end Notebase.Service
