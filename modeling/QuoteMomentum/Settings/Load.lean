import QuoteMomentum.Settings.Validate
import QuoteMomentum.Document.Load
import QuoteMomentum.Value.Convert

/-!
# Loading the settings

Settings start from the defaults. A configuration file, when there is one, is
read as text (its line ends `\r\n` and `\r` read as `\n`) and as a document;
a document that counts as true must be a mapping, and updates the sections
it names. Environment variables then override single fields, and the result
is checked (`validate`).

The overrides, each applied only when the variable is set and not empty:

* `QUOTEWATCH_SYMBOLS`: the watchlist, split at commas, each part stripped of
  white space, empty parts dropped;
* `QUOTEWATCH_REFRESH_SECONDS`: the refresh interval, read as a whole number;
* `QUOTEWATCH_HISTORY_MODE`: the history mode, stripped and in lower case;
* `QUOTEWATCH_USER_AGENT`: the user agent as given;
* `LOG_LEVEL`: the logging level in upper case;
* `LOG_FORMAT`: the logging format in lower case.
-/

namespace QuoteMomentum.Settings

/-- The environment variables that are set, with their values. -/
abbrev Environment := List (String × String)

/-- The value of a variable that is set and not empty. -/
def Environment.given (env : Environment) (name : String) : Option String :=
  match env.lookup name with
  | some v => if v.isEmpty then none else some v
  | none => none

/-- The text of a file read as text: `\r\n` and `\r` end lines as `\n`. -/
def fileText (raw : String) : String :=
  String.ofList (go raw.toList)
where
  go : List Char → List Char
    | '\r' :: '\n' :: rest => '\n' :: go rest
    | '\r' :: rest => '\n' :: go rest
    | c :: rest => c :: go rest
    | [] => []

/-- A watchlist written as comma-separated symbols. -/
def symbolList (text : String) : Value :=
  .list (((text.splitOn ",").map Text.strip).filter (!·.isEmpty) |>.map .str)

/-- An override of the settings by an environment variable: the name of the variable,
and how its value changes the settings. -/
structure Override where
  name : String
  apply : String → Settings → Except Fault Settings

/-- The overrides, in the order they are applied. -/
def overrides : List Override :=
  [⟨"QUOTEWATCH_SYMBOLS", fun t s =>
      .ok { s with watchlist := { s.watchlist with symbols := some (symbolList t) } }⟩,
    ⟨"QUOTEWATCH_REFRESH_SECONDS", fun t s => do
      return { s with watchlist := { s.watchlist with refreshIntervalSeconds := .int (← Text.readWhole t) } }⟩,
    ⟨"QUOTEWATCH_HISTORY_MODE", fun t s =>
      .ok { s with watchlist := { s.watchlist with historyMode := .str (Text.lower (Text.strip t)) } }⟩,
    ⟨"QUOTEWATCH_USER_AGENT", fun t s => .ok { s with feed := { s.feed with userAgent := .str t } }⟩,
    ⟨"LOG_LEVEL", fun t s => .ok { s with logging := { s.logging with level := .str (Text.upper t) } }⟩,
    ⟨"LOG_FORMAT", fun t s => .ok { s with logging := { s.logging with format := .str (Text.lower t) } }⟩]

/-- Applies one override when its variable is set and not empty. -/
def Override.applyIn (env : Environment) (s : Settings) (o : Override) : Except Fault Settings :=
  match env.given o.name with
  | some t => o.apply t s
  | none => .ok s

/-- The settings with the environment's overrides applied. -/
def applyEnvironment (s : Settings) (env : Environment) : Except Fault Settings :=
  overrides.foldlM (Override.applyIn env) s

/-- The section `name` of a document's root mapping: null when it is missing;
for a mapping, its entries with each value read out on its own, so that a
field holds the whole of what it names. -/
def sectionOf (doc : Document.Objects) (name : String) : Value :=
  match doc.lookup doc.root name with
  | none => .null
  | some slot =>
    match doc.entries? slot with
    | some es => .dict (es.map fun e => (e.1, doc.view e.2))
    | none => doc.view slot

/-- The settings updated from a configuration document: one that counts as
false changes nothing, and one that counts as true must be a mapping. -/
def fromDocument (s : Settings) (doc : Document.Objects) : Except Fault Settings :=
  let data := doc.value
  if !data.truthy then .ok s
  else match doc.entries? doc.root with
    | some _ =>
      s.update (.ofPairs (["watchlist", "indicators", "feed", "display", "logging"].map
        fun k => (k, sectionOf doc k)))
    | none => .error (.noAttribute data.typeName "get")

/-- Loads the settings from the text of a configuration file, if there is
one, and the environment, and checks them. -/
def load (file : Option String) (env : Environment) : Except Fault Settings := do
  let s ← match file with
    | some raw => fromDocument standard (← Document.load (fileText raw))
    | none => pure standard
  let s ← applyEnvironment s env
  validate s
  return s

end QuoteMomentum.Settings
