import Notebase.Session
import Notebase.Text.Lines

/-!
Settings. A setting is looked up in the environment first, then in a file of assignments, and
falls back to a default of its own.
-/

namespace Notebase

/-- Where settings are looked up: the environment, and the text of the file of assignments. -/
structure Environment where
  values : Dict Text Text := []
  assignments : Option Text := none

namespace Environment

/-- The value that a line assigns to a name: what follows the first equals sign, without the
blanks, and then without the quotation marks and spaces, around it. -/
def assigned? (name line : Text) : Option Text :=
  if (name ++ ['=']).isPrefixOf line.trim then
    let value : Text := (line.dropWhile (· != '=')).tail
    some (value.trim.trimBy fun c => c == '"' || c == '\'' || c == ' ')
  else none

/-- The value of a setting. An empty variable counts as missing; of several lines that assign
the setting the first one counts. -/
def read? (e : Environment) (name : Text) : Option Text :=
  match Text.given? (e.values.get? name) with
  | some value => some value
  | none => e.assignments.bind fun t => (Text.brokenLines t).findSome? (assigned? name)

end Environment

structure Settings where
  mode : Mode := .local
  generatorUrl : Option Text := none
  model : Text := "gpt-4o-mini".toList
  logLevel : Text := "INFO".toList
deriving DecidableEq, Repr

namespace Settings

/-- The mode with this name, in any letter case; any other name stands for the local mode. -/
def modeOfName (name : Text) : Mode := if name.lower = "remote".toList then .remote else .local

def load (e : Environment) : Settings where
  mode := modeOfName
    ((Text.given? (e.read? "BASES_GENERATION_MODE".toList)).getD "local".toList)
  generatorUrl := e.read? "BASES_GENERATOR_URL".toList
  model := (e.read? "BASES_OPENAI_MODEL".toList).getD "gpt-4o-mini".toList
  logLevel := Text.upper ((Text.given? (e.read? "BASES_LOG_LEVEL".toList)).getD "INFO".toList)

end Settings

def Environment.apiKey? (e : Environment) : Option Text := e.read? "OPENAI_API_KEY".toList

/-! ### Wiring -/

inductive GeneratorChoice where
  | service (url : Text)
  | chat (model : Text)
deriving DecidableEq, Repr

/-- The generator that settings ask for: the service if its address is given, or else the chat
service if there is a key. Only the remote mode asks for one. -/
def Settings.wanted? (s : Settings) (e : Environment) : Option GeneratorChoice :=
  if s.mode = .remote then
    match Text.given? s.generatorUrl, Text.given? e.apiKey? with
    | some url, _ => some (.service url)
    | none, some _ => some (.chat s.model)
    | none, none => none
  else none

/-- The studio that settings describe, over the built-in catalog. `make` makes a generator, or
none if that fails; the studio then works locally. -/
def Settings.studio {σ : Type} (s : Settings) (e : Environment) (catalog : Catalog)
    (make : GeneratorChoice → Option (Generator σ)) : Studio σ where
  catalog := catalog
  generator := (s.wanted? e).bind make
  wishedMode := s.mode

end Notebase
