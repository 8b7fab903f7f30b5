import QuoteMomentum.CommandLine.Options
import QuoteMomentum.Settings.Load
import QuoteMomentum.Settings.Summary

/-!
# Running the command line

A run reads the options, then loads the settings:

* from the file `--config` names, when it is given and not empty;
* else from the first of `$QUOTEWATCH_CONFIG`, `config/config.yaml`,
  `config.yaml` and the configuration shipped beside the program that exists;
* else from the defaults.

A file that does not exist counts as none; a directory, a file the system
refuses and one whose bytes are no UTF-8 cannot be read. The command-line
options then override the symbols, the history mode and the colors, and the
settings are checked again. With `--show-config` the run writes the summary of
the settings and ends.

Usage errors end the run with status 2, the usage and the message on the
error stream. Settings that cannot be loaded (a bad value, an unreadable
document or file) or fail the checks end it with status 2 and
`Configuration error: ` and the message. Other faults are not caught.
-/

namespace QuoteMomentum.CommandLine

/-- What a path names where the program runs. -/
inductive Entry where
  | missing
  | directory
  | file (text : String)
  /-- A file the system does not let the program read, with the number and
  the text of the system's error. -/
  | refused (errno : Nat) (reason : String)
  /-- A file whose bytes are no UTF-8. -/
  | undecodable (e : Text.DecodeError)
  deriving Repr, DecidableEq

/-- What a path names when the system fails to open it with the error `errno`:
nothing for the errors a test of existence passes over (no such entry, a
file where a directory should be, a bad descriptor, a loop of links), a
directory for the error of a directory, and a file refused for any other. -/
def entryOfError (errno : Nat) (reason : String) : Entry :=
  if errno ∈ [2, 9, 20, 40] then .missing
  else if errno = 21 then .directory
  else .refused errno reason

/-- How a run ends: its exit status and what it wrote to each stream. -/
structure Outcome where
  exitCode : Nat
  stdout : String := ""
  stderr : String := ""
  deriving Repr

/-- What a run comes to: an end, or watching the quotes with the settings
(and the number of polls, when limited). -/
inductive Action where
  | finish (o : Outcome)
  | watch (s : Settings) (polls : Option Int)

/-- A path as messages show it: without `.` parts and repeated or final
slashes; the current directory is `.`. Exactly two leading slashes stay, as
they may name another root. -/
def pathText (p : String) : String :=
  let parts := (p.splitOn "/").filter fun c => !c.isEmpty && c != "."
  if p.startsWith "//" && !p.startsWith "///" then "//" ++ "/".intercalate parts
  else if p.startsWith "/" then "/" ++ "/".intercalate parts
  else if parts.isEmpty then "."
  else "/".intercalate parts

/-- The path of the configuration file when `--config` is not given: the
first of the candidates that exists, the file shipped beside the program
(`packaged`, when there is one) last. -/
def findConfig (env : Settings.Environment) (lookup : String → Entry) (packaged : Option String) :
    Option String :=
  let named := match env.given "QUOTEWATCH_CONFIG" with
    | some p => [p]
    | none => []
  (named ++ ["config/config.yaml", "config.yaml"] ++ packaged.toList).find? (lookup · != .missing)

/-- The text of the configuration file at a path, none when it does not
exist. -/
def configText (lookup : String → Entry) (path : String) : Except Fault (Option String) :=
  match lookup path with
  | .missing => .ok none
  | .directory => .error (.isDirectory (pathText path))
  | .file t => .ok (some t)
  | .refused n r => .error (.os n r (pathText path))
  | .undecodable e => .error (.undecodableFile e)

/-- Whether a fault of loading the settings is reported as a configuration
error. -/
def isConfigurationError (f : Fault) : Bool :=
  f.family == .badValue || f.family == .shape || f.family == .unreadable ||
    f.family == .isDirectory || f.family == .os || f.family == .decoding

/-- The end of a run that could not configure itself. -/
def configurationError (f : Fault) : Action :=
  .finish { exitCode := 2, stderr := "Configuration error: " ++ f.message ++ "\n" }

/-- The settings with the command line's overrides. -/
def override (s : Settings) (o : Options) : Settings :=
  let s := if o.symbols.isEmpty then s
    else { s with watchlist := { s.watchlist with symbols := some (Settings.symbolList o.symbols) } }
  let s := if o.mode.isEmpty then s
    else { s with watchlist := { s.watchlist with historyMode := .str o.mode } }
  if o.noColor then { s with display := { s.display with color := .bool false } } else s

/-- Runs the command line with its arguments, the environment and what the
paths around it name, and the configuration shipped beside the program. -/
def run (args : List String) (env : Settings.Environment) (lookup : String → Entry)
    (packaged : Option String := none) : Except Fault Action := do
  match Options.read args with
  | .help => return .finish { exitCode := 0, stdout := helpText }
  | .misuse m =>
    return .finish { exitCode := 2, stderr := usage ++ programName ++ ": error: " ++ m ++ "\n" }
  | .run o =>
    let path := if o.config.isEmpty then findConfig env lookup packaged else some o.config
    let loaded : Except Fault Settings := do
      let text ← match path with
        | some p => configText lookup p
        | none => pure none
      Settings.load text env
    match loaded with
    | .error f => if isConfigurationError f then return configurationError f else throw f
    | .ok s =>
      let s := override s o
      match Settings.validate s with
      | .error f => if f.family == .badValue then return configurationError f else throw f
      | .ok () =>
        if o.showConfig then return .finish { exitCode := 0, stdout := ← Settings.summary s }
        else return .watch s (if o.once then some 1 else o.iterations)

end QuoteMomentum.CommandLine
