import Notebase.Catalog.Basic
import Notebase.Draft
import Notebase.Generator.Basic
import Notebase.Patch
import Notebase.Text.Fence

/-!
A session works on one document. The first instruction makes it, from a template, from a
document that its keywords lead to or from the request itself; every later one edits it. In
remote mode a generator writes the document instead, unless the instruction picks a template.
A session changes only when an instruction succeeds, when it is reset or when a template is
selected.
-/

namespace Notebase

/-! ### Studios -/

structure Studio (σ : Type) where
  catalog : Catalog
  generator : Option (Generator σ)
  wishedMode : Mode

def Studio.mode {σ : Type} (studio : Studio σ) : Mode :=
  match studio.generator with
  | none => .local
  | some _ => studio.wishedMode

/-! ### Responses -/

inductive Route where
  | template
  | keyword
  | synthesized
  | patched
  | remote
deriving DecidableEq, Repr

def Route.label : Route → Text
  | .template => "template".toList
  | .keyword => "keyword".toList
  | .synthesized => "synthesized".toList
  | .patched => "patched".toList
  | .remote => "remote".toList

/-- The state of a session: its document and the template that has just been selected. -/
structure Session where
  document : Option Text := none
  selected : Option Text := none
deriving DecidableEq, Repr

namespace Session

inductive Error where
  | emptyInstruction
  | refused (message : Text)
  | brokeDown (message : Text)
  | emptyDocument
deriving DecidableEq, Repr

/-- What the person who gave the instruction is told. -/
def Error.message : Error → Text
  | .emptyInstruction => "Instruction is empty.".toList
  | .refused message => message
  | .brokeDown message => "Failed to generate: ".toList ++ message
  | .emptyDocument => "Generator returned an empty document.".toList

/-- The answer to an instruction: the document afterwards and how it came about. -/
structure Response where
  document : Option Text
  route : Option Route := none
  templateId : Option Text := none
  request : Option Request := none
  applied : List Patch.Step := []
  error : Option Error := none
deriving DecidableEq, Repr

/-! ### Steps -/

def fresh : Session := {}

/-- The state after a document has been made, with the answer `response` about it. -/
def commit (document : Text) (response : Response) : Session × Response :=
  (⟨some document, none⟩, { response with document := some document })

/-- Starts over with a template; the answer is its description, to be submitted next. There is
no such step for an unknown id. -/
def select? (catalog : Catalog) (id : Text) : Option (Session × Text) :=
  (catalog.templates.get? id).map fun template => (⟨none, some id⟩, template.description)

def templateHit? (catalog : Catalog) (s : Session) (instruction : Text) : Option (Text × Text) :=
  match s.document with
  | some _ => none
  | none =>
      (Text.given? (catalog.idOfDescription? instruction)).bind fun id =>
        (catalog.templates.get? id).map fun template => (id, template.document)

def keywordHit? (catalog : Catalog) (instruction : Text) : Option (Text × Text) :=
  (Text.given? (catalog.keywords.classify instruction)).bind fun id =>
    (catalog.document? id).map fun document => (id, document)

def workLocally (catalog : Catalog) (s : Session) (instruction : Text) : Session × Response :=
  match s.document with
  | some document =>
      let (updated, applied) := Patch.patch document instruction
      commit updated { document := none, route := some .patched, applied := applied }
  | none =>
      match keywordHit? catalog instruction with
      | some (id, document) =>
          commit document { document := none, route := some .keyword, templateId := some id }
      | none =>
          let request := Request.ofText Property.resolve instruction
          commit (Draft.ofRequest request)
            { document := none, route := some .synthesized, request := some request }

def takeIn (s : Session) (reply : Reply) : Session × Response :=
  let fail := fun e =>
    (s, { document := s.document, route := some .remote, error := some e : Response })
  match reply with
  | .refusal message => fail (.refused message)
  | .breakdown message => fail (.brokeDown message)
  | .text t =>
      match (t.getD []).stripFence with
      | [] => fail .emptyDocument
      | document => commit document { document := none, route := some .remote }

/-- The generator that an instruction goes to, if it goes to one. -/
def consulted? {σ : Type} (studio : Studio σ) (s : Session) (instruction : Text) :
    Option (Generator σ) :=
  if instruction.isEmpty || (templateHit? studio.catalog s instruction).isSome then none
  else if studio.mode = .remote then studio.generator
  else none

/-- Carries out a trimmed instruction that no generator is consulted about. -/
def workAlone (catalog : Catalog) (s : Session) (instruction : Text) : Session × Response :=
  match instruction with
  | [] => (s, { document := s.document, error := some .emptyInstruction })
  | c :: t =>
      match templateHit? catalog s (c :: t) with
      | some (id, document) =>
          commit document { document := none, route := some .template, templateId := some id }
      | none => workLocally catalog s (c :: t)

/-- Carries out an instruction, in a session and with a generator in the state `g`. -/
def submit {σ : Type} (studio : Studio σ) (g : σ) (s : Session) (instruction : Text) :
    (Session × Response) × σ :=
  let instruction := instruction.trim
  match consulted? studio s instruction with
  | some generate =>
      let (reply, g) := generate g instruction s.document
      (takeIn s reply, g)
  | none => (workAlone studio.catalog s instruction, g)

end Session

end Notebase
