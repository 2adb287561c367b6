import PrivacyMapping.Command.Line

/-!
# The program

The program as a function of its arguments, the files around it and the current time. It answers with
an exit code, a printed text and the files that it leaves. An answer of 0 means success, 1 a failure,
and 2 a refused rule set or arguments that make no sense.
-/

namespace PrivacyMapping.Command

def Status.code : Status → Nat
  | .done => 0
  | .rejected => 2

def failureCode : Nat := 1

namespace Program

/-- What is printed when the version is asked for. -/
def versionText : String := "ogp 0.1.0\n"

def helpText : String :=
  "Maps fields of records and process exports onto privacy documentation\n\n" ++
  "Usage: ogp [--config <CONFIG>] [-v]... <COMMAND>\n\n" ++
  "Commands:\n" ++
  "  map --first <FIRST> --second <SECOND> --rules <RULES> [--out <OUT>]\n" ++
  "  apply --ssp <SSP> --first <FIRST> --second <SECOND> --rules <RULES>\n" ++
  "        [--out <OUT>] [--timestamp <TIMESTAMP>]\n" ++
  "  inspect ssp <PATH> [--json]\n" ++
  "  inspect poam <PATH> [--json]\n"

/-- What the program says when its arguments make no sense. -/
def usageText : String := "error: invalid arguments; try '--help'\n"

/-- The exit code with which nothing is run. -/
def stopCode : Line.Stop → Nat
  | .usage => 2
  | .help | .version => 0

/-- What is printed when nothing is run. -/
def stopText : Line.Stop → String
  | .usage => ""
  | .help => helpText
  | .version => versionText

/-- What the program leaves behind. -/
structure Answer where
  code : Nat
  printed : String
  files : Files
  deriving Inhabited

/-- What a request does in the end. -/
def requestEffect (read : FileReader) (now : Timestamp) (request : Line.Request) :
    Except Error Effect := do
  let config ← (Config.load read request.config).mapError .config
  request.command.effect read config now

def runRequest (files : Files) (now : Timestamp) (request : Line.Request) :
    Except Error Effect × Files :=
  conclude files (requestEffect files.read now request)

def run (files : Files) (now : Timestamp) (arguments : List String) : Answer :=
  match Line.parse arguments with
  | .error stop => ⟨stopCode stop, stopText stop, files⟩
  | .ok request =>
    match runRequest files now request with
    | (.error _, files) => ⟨failureCode, "", files⟩
    | (.ok effect, files) => ⟨effect.status.code, effect.printed, files⟩

end Program

end PrivacyMapping.Command
