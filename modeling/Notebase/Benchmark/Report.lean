import Notebase.Benchmark.Basic
import Notebase.Json.Pretty
import Notebase.Number.Format

/-!
Benchmark reports: a line for each case and a summary, or all of it as JSON. Each case comes with
the milliseconds that it took.
-/

namespace Notebase.Benchmark

/-- A case that was run, and the time it took in milliseconds. -/
structure Timed where
  result : Result
  milliseconds : Float

def passedCount (rs : List Timed) : Nat := (rs.filter (·.result.passed)).length

/-- The part of the cases that passed, in percent; none if there are no cases. -/
def passRate? (rs : List Timed) : Option Float :=
  if rs.isEmpty then none
  else some (Float.ofNat (passedCount rs) / Float.ofNat rs.length * 100)

/-- A report over several cases as JSON. -/
def json (rs : List Timed) : Json :=
  let text := fun t : String => t.toList
  .obj [
    (text "total_tests", .int rs.length),
    (text "passed", .int (passedCount rs)),
    (text "failed", .int (rs.length - passedCount rs : Nat)),
    (text "pass_rate", match passRate? rs with
      | some rate => .float rate
      | none => .int 0),
    (text "results", .arr (rs.map fun r => .obj [
      (text "name", .str r.result.name),
      (text "passed", .bool r.result.passed),
      (text "errors", .arr (r.result.failures.map fun f => .str f.message)),
      (text "route", match r.result.route with
        | some route => .str route
        | none => .null),
      (text "time_ms", .float r.milliseconds)]))]

def caseText (r : Timed) : Text :=
  let status := if r.result.passed then "[PASS] " else "[FAIL] "
  let first := status.toList ++ r.result.name ++ " (".toList ++
    r.result.route.getD "None".toList ++ ", ".toList ++ Number.onePlace r.milliseconds ++
    "ms)".toList
  Document.unlines (first :: r.result.failures.map fun f => "      ".toList ++ f.message)

def summaryText (rs : List Timed) : Text :=
  let rule := List.replicate 60 '='
  let count := fun (label : String) (n : Nat) => label.toList ++ Text.ofNat n
  Document.unlines [
    '\n' :: rule,
    "BENCHMARK SUMMARY".toList,
    rule,
    count "Total Tests: " rs.length,
    count "Passed: " (passedCount rs),
    count "Failed: " (rs.length - passedCount rs),
    "Pass Rate: ".toList ++ Number.onePlace ((passRate? rs).getD 0) ++ ['%'],
    rule]

/-! ### The command line -/

structure Options where
  json : Bool := false
  quiet : Bool := false
deriving DecidableEq, Repr

/-- A word on the command line: an option, an option with a value that it does not take, or a
word that is no option. -/
inductive Word where
  | json
  | quiet
  | help
  | misused
  | unknown
deriving DecidableEq, Repr

/-- What a word that starts with `-h` comes to. More letters of that kind ask for the same, and
any other letter ends them. -/
def Word.ofShortHelp (rest : Text) : Word :=
  match rest.dropWhile (· == 'h') with
  | [] => .help
  | c :: _ => if c = '=' || c = '-' then .misused else .help

def Word.ofLongName (name : Text) : Word :=
  if name.isPrefixOf "--help".toList then .help
  else if name.isPrefixOf "--json".toList then .json
  else if name.isPrefixOf "--quiet".toList then .quiet
  else .unknown

/-- Reads a word. A long option may be cut off anywhere after its first letter. -/
def Word.ofText : Text → Word
  | '-' :: 'h' :: rest => ofShortHelp rest
  | '-' :: '-' :: c :: rest =>
      let t := '-' :: '-' :: c :: rest
      let word := ofLongName (t.takeWhile (· != '='))
      if t.contains '=' && word != .unknown then .misused else word
  | _ => .unknown

def isAmbiguous (t : Text) : Bool := "--=".toList.isPrefixOf t

/-- What a command line asks for: to run the cases, to be told how, or nothing that makes
sense. -/
inductive Command where
  | run (options : Options)
  | help
  | invalid
deriving DecidableEq, Repr

/-- What words ask for, one after another. Whether all of them made sense (`clear`) is looked at
in the end only. -/
def Command.ofWords (options : Options) (clear : Bool) : List Word → Command
  | [] => if clear then .run options else .invalid
  | .json :: rest => ofWords { options with json := true } clear rest
  | .quiet :: rest => ofWords { options with quiet := true } clear rest
  | .help :: _ => .help
  | .misused :: _ => .invalid
  | .unknown :: rest => ofWords options false rest

/-- Reads a command line. Two hyphens alone end the options. -/
def Command.ofLine (line : List Text) : Command :=
  let options := line.takeWhile (· != "--".toList)
  if options.any isAmbiguous then .invalid
  else ofWords {} (options.length == line.length) (options.map Word.ofText)

/-- How the command line is explained. -/
def helpText : Text := Document.unlines ([
  "usage: prog [-h] [--json] [--quiet]",
  "",
  "Run Base Studio evaluation benchmarks",
  "",
  "options:",
  "  -h, --help  show this help message and exit",
  "  --json      Output results as JSON",
  "  --quiet     Minimal output"].map String.toList)

/-- What is printed about cases that have been run. -/
def report (options : Options) (rs : List Timed) : Text :=
  if options.json then (json rs).pretty ++ ['\n']
  else (if options.quiet then [] else rs.flatMap caseText) ++ summaryText rs

/-- Does what the command line asks for: the exit code and what is printed. `time` tells how
long a case took. -/
def command (cases : List Case) (time : Result → Float) (line : List Text) : Nat × Text :=
  match Command.ofLine line with
  | .invalid => (2, [])
  | .help => (0, helpText)
  | .run options =>
      let rs := cases.map fun c => let r := run c; Timed.mk r (time r)
      (if passedCount rs = rs.length then 0 else 1, report options rs)

end Notebase.Benchmark
