/-
Module: CacheDirectory.CommandLine.Outcome
Purpose: What the program prints for an invocation, and how it ends.
Trusted boundary: none
Main exports: Outcome, Invocation.run
-/
import CacheDirectory.CommandLine.Invocation
import CacheDirectory.Network.Host
import CacheDirectory.Service.Admin
import CacheDirectory.Settings.File

namespace CacheDirectory.CommandLine

/-- The end of a run: the status, what was printed, and what was complained of. -/
structure Outcome where
  status : Nat := 0
  output : String := ""
  complaint : String := ""
deriving DecidableEq, Repr, Inhabited

/-- The lines of a text. -/
def ofLines (lines : List String) : String :=
  String.join (lines.map (· ++ "\n"))

/-! ### Texts -/

namespace Topic

/-- The help on a topic. -/
def text : Topic → String
  | .program => ofLines [
    "Caching data store directory server", "",
    "Usage: dstore <COMMAND>", "",
    "Commands:",
    "  serve   Start the directory server",
    "  config  Print the default configuration, or validate a config file",
    "  help    Print this message or the help of the given subcommand(s)", "",
    "Options:",
    "  -h, --help     Print help",
    "  -V, --version  Print version"]
  | .serve => ofLines [
    "Start the directory server", "",
    "Usage: dstore serve [OPTIONS]", "",
    "Options:",
    "  -c, --config <CONFIG>  TOML config file; defaults apply to anything it leaves out",
    "      --bind <BIND>      Override the node request listener address",
    "      --admin <ADMIN>    Override the admin HTTP listener address",
    "  -h, --help             Print help"]
  | .config => ofLines [
    "Print the default configuration, or validate a config file", "",
    "Usage: dstore config [PATH]", "",
    "Arguments:",
    "  [PATH]  Config file to validate and print with defaults filled in", "",
    "Options:",
    "  -h, --help  Print help"]
  | .help => ofLines [
    "Print this message or the help of the given subcommand(s)", "",
    "Usage: dstore help [COMMAND]...", "",
    "Arguments:",
    "  [COMMAND]...  Print help for the subcommand(s)"]

end Topic

/-- What a server tells about itself when it starts. -/
def banner (settings : Settings) : String :=
  ofLines [
    "▶ dstore directory server",
    "  Requests: " ++ settings.requests.text,
    "  Admin:    " ++ settings.admin.text,
    "  Update queue ports: " ++ settings.ports.text]

namespace Outcome

/-- A run that fails after it has printed something. -/
def failed (output : String) (error : StartError) : Outcome where
  status := 1
  output := output
  complaint := ofLines (("Error: " ++ error.message) ::
    match error.cause? with
    | some cause => ["", "Caused by:", "    " ++ cause]
    | none => [])

end Outcome

/-! ### Running -/

/-- The settings in a file, or the default settings if no file is named. -/
def settingsIn (path : Option String) (read : String → Except FileFailure String) :
    Except StartError Settings :=
  match path with
  | some path => Settings.ofFile path (read path)
  | none => .ok {}

namespace ServeOptions

/-- Settings with the addresses that the options name. -/
def apply (options : ServeOptions) (settings : Settings) : Settings :=
  { settings with
    requests := options.requests.getD settings.requests
    admin := options.admin.getD settings.admin }

end ServeOptions

/-- Listen for nodes and for the admin interface. -/
def listen (host : Host) (settings : Settings) : Except StartError Unit :=
  (do host.listen settings.requests; host.listen settings.admin).mapError .connection

/-- The settings as they are shown, below the path of the file that they are
from. -/
def shown (path : Option String) (settings : Settings) : Except StartError String := do
  let text ← settings.text.mapError .unwritable
  return (path.map fun path => "# ✓ " ++ path ++ "\n").getD "" ++ text

namespace Invocation

/-- Run an invocation on a host, up to the point where a server waits for nodes.
`read` gives the text of the file at a path. -/
def run (host : Host) (read : String → Except FileFailure String) : Invocation → Outcome
  | .serve options =>
    match (settingsIn options.settings read).map options.apply with
    | .error error => .failed "" error
    | .ok settings =>
      match listen host settings with
      | .error error => .failed (banner settings) error
      | .ok () => { output := banner settings }
  | .config path =>
    match settingsIn path read >>= shown path with
    | .error error => .failed "" error
    | .ok output => { output }
  | .help topic => { output := topic.text }
  | .version => { output := ofLines ["dstore " ++ CacheDirectory.version] }
  | .misuse => { status := 2, complaint := Topic.program.text }

end Invocation

end CacheDirectory.CommandLine
