import Notebase.Catalog.Builtin
import Notebase.Console
import Notebase.Settings

/-!
The command line. Settings come from the environment and from the file `.env` beside the
program; words on the command line are one instruction, and otherwise every line of the input is
a command or an instruction. The program opens no connection, so in remote mode the generation
service is out of reach.
-/

namespace Notebase.Main

def settingNames : List String := [
  "BASES_GENERATION_MODE", "BASES_GENERATOR_URL", "BASES_OPENAI_MODEL", "BASES_LOG_LEVEL",
  "OPENAI_API_KEY"]

/-- Where the settings of this process are looked up. -/
def environment : IO Environment := do
  let mut values : Dict Text Text := []
  for name in settingNames do
    if let some value ← IO.getEnv name then
      values := values ++ [(name.toList, value.toList)]
  let assignments ← try
      pure (some (← IO.FS.readFile ".env").toList)
    catch _ => pure none
  return { values, assignments }

def outOfReach : GeneratorChoice → Option (Generator Unit)
  | .service _ => some fun _ _ _ =>
      (.refusal ("Generation service unreachable: no connection".toList), ())
  | .chat _ => none

def studio : IO (Studio Unit) := do
  let e ← environment
  return (Settings.load e).studio e Catalog.builtin outOfReach

/-- Reads and answers lines until the input or the conversation ends. -/
partial def converse (studio : Studio Unit) (s : Session) : IO Unit := do
  let output ← IO.getStdout
  output.putStr (String.ofList (Console.prompt s).text)
  output.flush
  let typed ← (← IO.getStdin).getLine
  if typed.isEmpty then return ()
  let (said, next) := Console.answer studio () s typed.toList
  output.putStr (String.ofList (Console.printed said))
  match next with
  | some (s, _) => converse studio s
  | none => return ()

end Notebase.Main

def main (words : List String) : IO UInt32 := do
  let studio ← Notebase.Main.studio
  match Notebase.Text.unwords (words.map String.toList) with
  | [] => do
      IO.print (String.ofList Notebase.Console.Output.help.text)
      Notebase.Main.converse studio .fresh
      return 0
  | _ => do
      let ((code, said), _) := Notebase.Console.run studio () (words.map String.toList) []
      IO.print (String.ofList (Notebase.Console.printed said))
      return code.toUInt32
