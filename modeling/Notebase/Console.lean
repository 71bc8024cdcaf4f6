import Notebase.Session
import Notebase.Text.Lines

/-!
The console. Every line is a command or an instruction. What the console says depends on the
lines alone, so a whole conversation is a function of its input (`converse`); it is first a list
of things said (`Output`), and `Output.text` is how each of them is printed.
-/

namespace Notebase.Console

/-! ### What is typed -/

inductive Command where
  | nothing
  | quit
  | reset
  | templates
  | select (id : Text)
  | instruct (instruction : Text)
deriving DecidableEq, Repr

/-- Reads a line. A command is written without blanks around it, and the id follows the word
that selects. -/
def Command.ofLine (line : Text) : Command :=
  let t := line.trim
  if t.isEmpty then .nothing
  else if t = ":quit".toList || t = ":q".toList then .quit
  else if t = ":reset".toList then .reset
  else if t = ":templates".toList then .templates
  else
    match Text.after? ":select".toList t with
    | some id => .select id.trim
    | none => .instruct t

/-! ### What is said -/

/-- One thing that the console says. -/
inductive Output where
  | help
  | prompt (hasDocument : Bool)
  | resetDone
  | template (id label : Text)
  | unknownTemplate (id : Text)
  | description (t : Text)
  | failure (e : Session.Error)
  | document (route : Option Route) (t : Text) (applied : List Patch.Step)
  | plain (t : Text)
deriving DecidableEq, Repr

def helpText : Text := Text.join ['\n'] ([
  "Commands:",
  "  :templates      list exemplar templates",
  "  :select <id>    start from a template",
  "  :reset          discard the current document",
  "  :quit           exit"].map String.toList)

def line (t : Text) : Text := t ++ ['\n']

def padded (t : Text) : Text := t ++ Text.spaces (10 - t.length)

/-- The part of a document's report that names the edits, if there were any. -/
def appliedText (applied : List Patch.Step) : Text :=
  if applied.isEmpty then []
  else line "\n--- Applied ---".toList ++
    line (Text.join ", ".toList (applied.map Patch.Step.label))

/-- How something said is printed. Only a prompt leaves its line open. -/
def Output.text : Output → Text
  | .help => line helpText
  | .prompt hasDocument => (if hasDocument then "Update Base > " else "Base Studio > ").toList
  | .resetDone => line "Reset.".toList
  | .template id label => line (padded id ++ [' '] ++ label)
  | .unknownTemplate id => line ("Unknown template '".toList ++ id ++ "'.".toList)
  | .description t => line ("> ".toList ++ t)
  | .failure e => line ("Error: ".toList ++ e.message)
  | .document route t applied =>
      let route := (route.map Route.label).getD "None".toList
      line ("\n--- Document (".toList ++ route ++ ") ---".toList) ++ line t ++
        appliedText applied ++ ['\n']
  | .plain t => line t

/-! ### Conversations -/

def prompt (s : Session) : Output := .prompt s.document.isSome

/-- The answer to an instruction as the console says it. -/
def ofResponse (r : Session.Response) : Output :=
  match r.error with
  | some e => .failure e
  | none => .document r.route (r.document.getD []) r.applied

/-- What a line leads to: what is said, and the session and generator afterwards, unless the
conversation is over. -/
def answer {σ : Type} (studio : Studio σ) (g : σ) (s : Session) (typed : Text) :
    List Output × Option (Session × σ) :=
  match Command.ofLine typed with
  | .nothing => ([], some (s, g))
  | .quit => ([], none)
  | .reset => ([.resetDone], some (.fresh, g))
  | .templates =>
      (studio.catalog.templates.map fun (id, template) => .template id template.label, some (s, g))
  | .select id =>
      match Session.select? studio.catalog id with
      | none => ([.unknownTemplate id], some (s, g))
      | some (s, description) =>
          let ((s, response), g) := Session.submit studio g s description
          ([.description description, ofResponse response], some (s, g))
  | .instruct instruction =>
      let ((s, response), g) := Session.submit studio g s instruction
      ([ofResponse response], some (s, g))

/-- A conversation from a state on: everything that is said, and the generator afterwards. -/
def converse {σ : Type} (studio : Studio σ) (g : σ) (s : Session) :
    List Text → List Output × σ
  | [] => ([prompt s], g)
  | typed :: rest =>
      match answer studio g s typed with
      | (said, none) => (prompt s :: said, g)
      | (said, some (s', g')) =>
          let (more, g'') := converse studio g' s' rest
          (prompt s :: said ++ more, g'')

/-- A run of the console: the exit code, everything that is said and the generator afterwards.
Words on the command line are one instruction; without any, the input is a conversation. -/
def run {σ : Type} (studio : Studio σ) (g : σ) (words : List Text) (input : Text) :
    (Nat × List Output) × σ :=
  match Text.unwords words with
  | [] =>
      let (said, g) := converse studio g .fresh input.lines
      ((0, .help :: said), g)
  | instruction =>
      let ((_, response), g) := Session.submit studio g .fresh instruction
      match response.error with
      | some e => ((1, [.plain e.message]), g)
      | none => ((0, [.plain (response.document.getD [])]), g)

def printed (said : List Output) : Text := said.flatMap Output.text

end Notebase.Console
