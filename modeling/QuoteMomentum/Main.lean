import QuoteMomentum.CommandLine.Run
import QuoteMomentum.CommandLine.Dotenv

/-!
# The command line

Reads the environment and the candidate configuration files, runs
`CommandLine.run`, writes what it wrote to each stream and exits with its
status. Once the options are read, the variables of the nearest `.env` file
join the environment. Texts come in kept (`Text.keep`) and go out as their
characters (`Text.plain`). Watching quotes needs a quote feed, which this
program does not reach; a run that asks for it ends with status 1, as does a
fault the program does not catch.
-/

open QuoteMomentum

/-- The environment variables the dashboard reads. -/
def watchedVariables : List String :=
  ["QUOTEWATCH_SYMBOLS", "QUOTEWATCH_REFRESH_SECONDS", "QUOTEWATCH_HISTORY_MODE",
    "QUOTEWATCH_USER_AGENT", "LOG_LEVEL", "LOG_FORMAT", "QUOTEWATCH_CONFIG"]

/-- The text the C library gives an error number that opening or reading a
file can raise; any other keeps the text it came with, capitalized. -/
def systemReason (n : Nat) (details : String) : String :=
  match n with
  | 1 => "Operation not permitted"
  | 5 => "Input/output error"
  | 6 => "No such device or address"
  | 12 => "Cannot allocate memory"
  | 13 => "Permission denied"
  | 19 => "No such device"
  | 22 => "Invalid argument"
  | 23 => "Too many open files in system"
  | 24 => "Too many open files"
  | 26 => "Text file busy"
  | 27 => "File too large"
  | 36 => "File name too long"
  | 75 => "Value too large for defined data type"
  | _ => details.capitalize

/-- The number and the text of the system's error behind an IO error. The
number may come negated, as a word. -/
def errnoOf (e : IO.Error) : Option (Nat × String) :=
  let found : Option (UInt32 × String) := match e with
    | .alreadyExists _ n d | .otherError n d | .resourceBusy n d | .resourceVanished n d
    | .unsupportedOperation n d | .hardwareFault n d | .unsatisfiedConstraints n d
    | .illegalOperation n d | .protocolError n d | .timeExpired n d | .interrupted _ n d
    | .noFileOrDirectory _ n d | .invalidArgument _ n d | .permissionDenied _ n d
    | .resourceExhausted _ n d | .inappropriateType _ n d | .noSuchThing _ n d => some (n, d)
    | .unexpectedEof | .userError _ => none
  found.map fun (n, d) =>
    let n := if n.toNat < 2147483648 then n.toNat else 4294967296 - n.toNat
    (n, systemReason n d)

/-- What a path names on disk: a file with its text, a directory, nothing, or
a file that cannot be read. -/
def entryAt (p : String) : IO CommandLine.Entry := do
  try
    match Text.decodeFile (← IO.FS.readBinFile (Text.plain p)) with
    | .ok t => return .file t
    | .error e => return .undecodable e
  catch e =>
    match errnoOf e with
    | some (n, reason) => return CommandLine.entryOfError n reason
    | none => return .missing

/-- The text of the `.env` file a program in `dir` reads, if it finds one. -/
def dotenvText (dir : String) : IO (Except Fault (Option String)) := do
  for p in CommandLine.Dotenv.candidates dir do
    match ← entryAt p with
    | .file t => return .ok (some t)
    | .refused n reason => return .error (.os n reason p)
    | .undecodable e => return .error (.undecodableFile e)
    | .missing | .directory => pure ()
  return .ok none

/-- The variables of `names` that are set and not yet in `env`. -/
def readVariables (env : Settings.Environment) (names : List String) : IO Settings.Environment := do
  let mut env := env
  for name in names do
    if !env.any (·.1 == name) then
      if let some v ← IO.getEnv name then env := env ++ [(name, Text.keep v)]
  return env

def main (args : List String) : IO UInt32 := do
  let args := args.map Text.keep
  let home := Text.keep (toString (← IO.appDir))
  let mut env ← readVariables [] watchedVariables
  let named := match CommandLine.Options.read args with
    | .run o => [o.config]
    | _ => []
  -- the `.env` file is read only once the options are
  if let .run _ := CommandLine.Options.read args then
    match ← dotenvText home with
    | .ok (some text) =>
      env ← readVariables env (CommandLine.Dotenv.referenced text)
      env := CommandLine.Dotenv.load env text
    | .ok none => pure ()
    | .error f =>
      IO.eprintln (Text.plain f.message)
      return 1
  let packaged := home ++ "/config/config.yaml"
  let candidates := named ++ (env.lookup "QUOTEWATCH_CONFIG").toList ++
    ["config/config.yaml", "config.yaml", packaged]
  let mut entries : List (String × CommandLine.Entry) := []
  for p in candidates do
    if !p.isEmpty then entries := entries ++ [(p, ← entryAt p)]
  let lookup (p : String) : CommandLine.Entry := (entries.lookup p).getD .missing
  match CommandLine.run args env lookup (some packaged) with
  | .ok (.finish o) =>
    IO.print (Text.plain o.stdout)
    IO.eprint (Text.plain o.stderr)
    return o.exitCode.toUInt32
  | .ok (.watch _ _) =>
    IO.eprintln "watching quotes needs a quote feed"
    return 1
  | .error f =>
    IO.eprintln (Text.plain f.message)
    return 1
