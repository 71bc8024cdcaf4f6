import Notebase.Generator.Basic
import Notebase.Generator.Retry
import Notebase.Text.Fence

/-!
The chat service. An instruction is sent together with the rules for documents and, where there
is one, the current document; the reply is the new document, perhaps inside a fence.
-/

namespace Notebase.Chat

def systemPrompt : Text := Text.join ['\n'] ([
  "",
  "You are an expert generator of Obsidian Bases (.base) documents.",
  "A document is YAML with these top-level keys:",
  "- filters: a boolean tree (and / or / not) of predicate strings,",
  "  e.g. file.hasTag(\"project\"), file.inFolder(\"Travel\"), file.ext == \"md\"",
  "- formulas: name -> expression string (computed fields)",
  "- properties: property reference -> \x7b displayName: \"...\" \x7d",
  "- views: list of views, each with type (table | cards | list | map), name,",
  "  order (list of property references), optional sort",
  "  [\x7bproperty, direction: ASC|DESC\x7d], optional groupBy \x7bproperty, direction\x7d,",
  "  optional limit, optional per-view filters; map views may set coordinates,",
  "  markerIcon, markerColor, center, defaultZoom, maxZoom, mapTiles",
  "- summaries: property reference -> aggregation",
  "Property references are file builtins (file.name, file.size, file.folder,",
  "file.ctime, file.mtime, file.tags, file.links, file.ext), vault property",
  "names, or formula.<name> for a declared formula.",
  "Rules:",
  "- Output ONLY raw YAML. No markdown code fences, no explanations.",
  "- Wrap predicates and formulas that contain double quotes in single quotes.",
  "- When updating an existing document, return the COMPLETE modified YAML.",
  "- Always include meaningful displayNames for formulas.",
  "- If the request is unclear, make reasonable assumptions.",
  ""].map String.toList)

/-- What stands before the current document, between it and the instruction in a message that
asks for a change. -/
def updateFront : Text := "Here is the current base document:\n```yaml\n".toList

/-- What stands between the current document and the instruction. -/
def updateMiddle : Text :=
  "\n```\n\nPlease modify it according to this request: ".toList

def updateTemplate : Text :=
  updateFront ++ "\x7bdocument\x7d".toList ++ updateMiddle ++ "\x7binstruction\x7d".toList

def userMessage (instruction : Text) (document : Option Text) : Text :=
  match Text.given? document with
  | some t => updateFront ++ t ++ updateMiddle ++ instruction
  | none => instruction

structure Completion where
  model : Text
  system : Text
  user : Text
  temperature : Nat := 0
  maxTokens : Nat := 4096
deriving DecidableEq, Repr

def completion (model instruction : Text) (document : Option Text) : Completion where
  model := model
  system := systemPrompt
  user := userMessage instruction document

def maxRetries : Int := 2

def firstWait : Int := 1

/-- The time after which a call fails, in seconds. -/
def timeout : Nat := 30

def documentOf (t : Option Text) : Text := (t.getD []).stripFence

def missingKeyMessage : Text := "OPENAI_API_KEY not set (env or .env).".toList

/-- One instruction, with the calls numbered by `attempt`. -/
def generate (attempt : Nat → Retry.Attempt) : Retry.Report :=
  Retry.run attempt maxRetries firstWait

def reply (report : Retry.Report) : Reply :=
  match report.outcome with
  | some (.value t) => .text (some (documentOf t))
  | some (.failure _ message) => .breakdown message
  | none => .breakdown []

/-- The generator that sends each instruction to the chat service; `call` makes the calls for
one completion. -/
def generator {σ : Type} (model : Text) (call : σ → Completion → Retry.Report × σ) :
    Generator σ :=
  fun g instruction document =>
    let (report, g) := call g (completion model instruction document)
    (reply report, g)

end Notebase.Chat
