import CaseHerald.Failure
import CaseHerald.Json.Writer
import CaseHerald.Text.Blank

/-!
# The command line

A watcher takes the path of its configuration and whether to run only once. The format of its log
comes from the environment.
-/
namespace CaseHerald

/-- A failure of the program as a whole. -/
inductive DaemonFailure
  | usage (reason : String)
  | config (f : ConfigFailure)
  | watch (f : Failure)
  deriving DecidableEq, Repr

/-- The failure in words. -/
def DaemonFailure.message : DaemonFailure → String
  | .usage reason => "Usage: " ++ reason ++ " (expected [--config <path>] [--once])"
  | .config f => f.message
  | .watch f => f.message

/-- What the arguments say. -/
structure Arguments where
  config : Option String
  once : Bool
  deriving DecidableEq, Repr

namespace Arguments

/-- Reads arguments in order; a later one takes the place of an earlier one. -/
def readFrom (a : Arguments) : List String → Except DaemonFailure Arguments
  | [] => .ok a
  | "--once" :: rest => readFrom { a with once := true } rest
  | ["--config"] => .error (.usage "--config needs a path")
  | "--config" :: path :: rest => readFrom { a with config := some path } rest
  | arg :: rest =>
    if "--config=".toList.isPrefixOf arg.toList then
      readFrom { a with config := some (String.ofList (arg.toList.drop 9)) } rest
    else .error (.usage ("unknown argument " ++ Text.quoted arg))

/-- What the arguments say. -/
def read (args : List String) : Except DaemonFailure Arguments := readFrom ⟨none, false⟩ args

/-- The variable that names the configuration where no argument does. -/
def configVariable : String := "CASEWATCH_CONFIG"

/-- The arguments, with the path of the configuration from the environment if they have none. -/
def orElse (a : Arguments) (fallback : Option String) : Arguments :=
  { a with config := a.config.or fallback }

end Arguments

/-- The format of the log. -/
inductive LogFormat
  | json
  | pretty
  deriving DecidableEq, Repr

/-- The format that the environment asks for. What is unknown counts as JSON. -/
def LogFormat.read (raw : Option String) : LogFormat :=
  match raw with
  | none => .json
  | some raw =>
    let name := String.ofList ((Text.trimChars raw.toList).map Char.toLower)
    if name = "pretty" ∨ name = "plain" ∨ name = "text" then .pretty else .json

/-- A line of the log. -/
def LogFormat.line (f : LogFormat) (level message : String) : String :=
  match f with
  | .json => (Json.Document.object [("level", .text level), ("message", .text message)]).render
  | .pretty => level ++ " " ++ message

/-- The variable that names the format of the log. -/
def LogFormat.variable : String := "CASEWATCH_LOG_FORMAT"

/-- The version of the program. -/
def version : String := "0.1.0"

end CaseHerald
