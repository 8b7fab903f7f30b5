import QuoteMomentum.Value.Convert
import QuoteMomentum.Text.Layout

/-!
# The options of the command line

The dashboard takes eight options, each with a long name (and `-h`, `-c` as
short names): `--help`, `--config PATH`, `--symbols LIST`, `--mode MODE`
(`chart` or `session`), `--once`, `--iterations N`, `--no-color` and
`--show-config`. It takes no operands.

Reading the arguments (`Options.read`) goes in two passes.

1. Each argument is classified, left to right, before any is acted on:
   after `--` everything is an operand; an argument that does not start
   with `-`, or is `-`, is an operand; an option name, or a name and `=value`,
   is that option; a long prefix (`--he`) names the one option it starts, and
   a short name may carry its value (`-cFILE`). A prefix of several options
   is a usage error at once. Negative numbers and words with a space are
   operands; any other word with `-` is an unknown option.
2. Options are then acted on in order. An option with a value takes the
   `=value`, else the next argument if it is an operand. Flags given as short
   names may be run together (`-hc FILE`). `--help` stops reading and shows
   the help; a bad value is a usage error. Operands and unknown options are
   left over, and anything left over is a usage error at the end.
-/

namespace QuoteMomentum.CommandLine

/-- The name the program goes by in its messages. -/
def programName : String := "main.py"

/-- An option of the command line. -/
inductive Switch where
  | help
  | config
  | symbols
  | mode
  | once
  | iterations
  | noColor
  | showConfig
  deriving DecidableEq, Repr

namespace Switch

/-- Every option, in the order they are shown. -/
def all : List Switch := [help, config, symbols, mode, once, iterations, noColor, showConfig]

/-- The names of an option, in the order they are shown. -/
def names : Switch → List String
  | help => ["-h", "--help"]
  | config => ["--config", "-c"]
  | symbols => ["--symbols"]
  | mode => ["--mode"]
  | once => ["--once"]
  | iterations => ["--iterations"]
  | noColor => ["--no-color"]
  | showConfig => ["--show-config"]

/-- The placeholder of an option's value, for options that take one. -/
def placeholder : Switch → Option String
  | config => some "CONFIG"
  | symbols => some "SYMBOLS"
  | mode => some "\x7bchart,session\x7d"
  | iterations => some "ITERATIONS"
  | _ => none

/-- Whether an option takes a value. -/
def takesValue (s : Switch) : Bool := s.placeholder.isSome

/-- How messages name an option: its names joined by `/`. -/
def label (s : Switch) : String := "/".intercalate s.names

/-- What an option does, as the help says. -/
def summary : Switch → String
  | help => "show this help message and exit"
  | config => "Path to configuration file"
  | symbols => "Comma-separated symbols (overrides config)"
  | mode => "History source for MACD (overrides config)"
  | once => "Poll once and exit"
  | iterations => "Number of refreshes before exiting"
  | noColor => "Disable ANSI colors"
  | showConfig => "Show current configuration"

/-- How an option is written in the help: each name with the placeholder. -/
def invocation (s : Switch) : String :=
  ", ".intercalate (s.names.map fun n =>
    match s.placeholder with
    | some p => n ++ " " ++ p
    | none => n)

/-- The help lines of an option: the invocation in a column of 20, then the
summary; a longer invocation has the summary on a line of its own. -/
def helpLines (s : Switch) : String :=
  if s.invocation.length ≤ 20 then Text.alignLeft 22 ("  " ++ s.invocation) ++ "  " ++ s.summary
  else "  " ++ s.invocation ++ "\n" ++ Text.repeatChar 24 ' ' ++ s.summary

end Switch

/-- Every option name with its option, in the order they are shown. -/
def optionNames : List (String × Switch) :=
  Switch.all.flatMap fun s => s.names.map (·, s)

/-- The usage lines. -/
def usage : String :=
  "usage: " ++ programName ++ " [-h] [--config CONFIG] [--symbols SYMBOLS]\n" ++
    "               [--mode \x7bchart,session\x7d] [--once] [--iterations ITERATIONS]\n" ++
    "               [--no-color] [--show-config]\n"

/-- The examples shown after the options. -/
def examples : String :=
  "Examples:\n" ++
    "  python main.py                        # Run with config/config.yaml\n" ++
    "  python main.py --once                 # Single refresh, then exit\n" ++
    "  python main.py --symbols AAPL,NVDA    # Override the watchlist\n" ++
    "  python main.py --mode session         # MACD from polls collected this run\n" ++
    "  python main.py --show-config          # Show configuration\n" ++
    "        \n"

/-- The help text. -/
def helpText : String :=
  usage ++ "\nTerminal stock dashboard with MACD momentum\n\noptions:\n" ++
    String.join (Switch.all.map (·.helpLines ++ "\n")) ++ "\n" ++ examples

/-! ## Classifying arguments -/

/-- What an argument is, before any is acted on. -/
inductive Word where
  /-- An operand, which no option asked for. -/
  | operand
  /-- `--`: every argument after it is an operand. -/
  | separator
  /-- An option: the one it names (none for an unknown one), the name it was
  written with, and a value written in the same argument. -/
  | option (s : Option Switch) (name : String) (inline : Option String)
  deriving Repr, DecidableEq

/-- Whether a character is a decimal digit of any script. -/
def isAnyDigit (c : Char) : Bool :=
  Text.digitZeros.any fun z => z ≤ c.toNat && c.toNat < z + 10

/-- Whether a word reads as a negative number: `-` then digits, or `-`,
optional digits, a point and digits. -/
def isNegativeNumber (w : String) : Bool :=
  let cs := w.toList
  let cs := if cs.getLast? == some '\n' then cs.dropLast else cs
  match cs with
  | '-' :: rest =>
    let whole := rest.takeWhile isAnyDigit
    match rest.dropWhile isAnyDigit with
    | [] => !whole.isEmpty
    | '.' :: frac => !frac.isEmpty && frac.all isAnyDigit
    | _ => false
  | _ => false

/-- The text before the first `=` and the text after it. -/
def splitAtEquals (w : String) : Option (String × String) :=
  match w.splitOn "=" with
  | first :: rest@(_ :: _) => some (first, "=".intercalate rest)
  | _ => none

/-- The options a word may name by a prefix: for a long word every option
whose name starts with the part before `=`; for a short word the option named
by its first two characters (with the rest as its value) and every option
whose name starts with the whole word. -/
def prefixMatches (w : String) : List (Switch × String × Option String) :=
  if w.startsWith "--" then
    let (stem, inline) := match splitAtEquals w with
      | some (a, b) => (a, some b)
      | none => (w, none)
    (optionNames.filter (·.1.startsWith stem)).map fun (n, s) => (s, n, inline)
  else
    let short := String.ofList (w.toList.take 2)
    let tail := String.ofList (w.toList.drop 2)
    optionNames.filterMap fun (n, s) =>
      if n == short then some (s, n, some tail)
      else if n.startsWith w then some (s, n, none)
      else none

/-- Classifies a word; a prefix of several options is a usage error. -/
def classify (w : String) : Except String Word :=
  if w.isEmpty || !w.startsWith "-" then .ok .operand
  else match optionNames.lookup w with
    | some s => .ok (.option (some s) w none)
    | none =>
      if w.length == 1 then .ok .operand
      else
        let exact := (splitAtEquals w).bind fun (n, v) =>
          (optionNames.lookup n).map fun s => Word.option (some s) n (some v)
        match exact with
        | some word => .ok word
        | none =>
          match prefixMatches w with
          | [(s, n, v)] => .ok (.option (some s) n v)
          | [] =>
            if isNegativeNumber w || w.contains ' ' then .ok .operand
            else .ok (.option none w none)
          | ms =>
            .error ("ambiguous option: " ++ w ++ " could match " ++
              ", ".intercalate (ms.map (·.2.1)))

/-- Classifies every argument; after `--` all are operands. -/
def classifyAll : List String → Except String (List Word)
  | [] => .ok []
  | w :: ws =>
    if w == "--" then .ok (.separator :: ws.map fun _ => .operand)
    else do
      let first ← classify w
      return first :: (← classifyAll ws)

/-! ## Acting on options -/

/-- The options given. A value given as `--` alone stands for no value and
counts as not given. -/
structure Options where
  config : String := ""
  symbols : String := ""
  mode : String := ""
  once : Bool := false
  iterations : Option Int := none
  noColor : Bool := false
  showConfig : Bool := false
  deriving Repr, DecidableEq

/-- What reading the arguments asks for. -/
inductive Request where
  /-- Show the help and stop. -/
  | help
  /-- A usage error, with its message. -/
  | misuse (message : String)
  /-- Run with these options. -/
  | run (o : Options)
  deriving Repr, DecidableEq

/-- Reading options: the options so far, or how reading stopped. -/
abbrev Reading := Except Request Options

/-- Acts on one option with its value, if it takes one. -/
def Options.apply (o : Options) (s : Switch) (value : Option String) : Reading :=
  let v := value.getD ""
  let argumentError (msg : String) : Reading := .error (.misuse ("argument " ++ s.label ++ ": " ++ msg))
  match s with
  | .help => .error .help
  | .config => .ok { o with config := if v == "--" then "" else v }
  | .symbols => .ok { o with symbols := if v == "--" then "" else v }
  | .mode =>
    if v == "--" then .ok { o with mode := "" }
    else if v == "chart" || v == "session" then .ok { o with mode := v }
    else argumentError ("invalid choice: " ++ Text.quoted v ++ " (choose from 'chart', 'session')")
  | .iterations =>
    if v == "--" then .ok { o with iterations := none }
    else match Text.readWhole v with
      | .ok n => .ok { o with iterations := some n }
      | .error _ => argumentError ("invalid int value: " ++ Text.quoted v)
  | .once => .ok { o with once := true }
  | .noColor => .ok { o with noColor := true }
  | .showConfig => .ok { o with showConfig := true }

/-- The options an option argument stands for, with their values: short
flags run together each stand for one, and the last may take the value. -/
def expand (s : Switch) (name : String) (inline : Option String) (next : Option String) :
    Except Request (List (Switch × Option String) × Bool) :=
  go s name inline (((inline.map (·.length)).getD 0) + 1)
where
  ignored (s : Switch) (v : String) : Except Request (List (Switch × Option String) × Bool) :=
    .error (.misuse ("argument " ++ s.label ++ ": ignored explicit argument " ++ Text.quoted v))
  go (s : Switch) (name : String) (inline : Option String) :
      Nat → Except Request (List (Switch × Option String) × Bool)
    | 0 => .ok ([], false)
    | n + 1 =>
      match inline with
      | some v =>
        if s.takesValue then .ok ([(s, some v)], false)
        else if name.toList.getD 1 '-' != '-' && !v.isEmpty then
          let name' := String.ofList ['-', v.toList.headD '-']
          let rest := String.ofList (v.toList.drop 1)
          match optionNames.lookup name' with
          | some s' =>
            (go s' name' (if rest.isEmpty then none else some rest) n).map
              fun (more, used) => ((s, none) :: more, used)
          | none => ignored s v
        else ignored s v
      | none =>
        if s.takesValue then
          match next with
          | some v => .ok ([(s, some v)], true)
          | none => .error (.misuse ("argument " ++ s.label ++ ": expected one argument"))
        else .ok ([(s, none)], false)

/-- Acts on the arguments from the left; `left` holds the arguments left
over. -/
def consume : List (String × Word) → Options → List String → Reading
  | [], o, left =>
    if left.isEmpty then .ok o
    else .error (.misuse ("unrecognized arguments: " ++ " ".intercalate left))
  | (w, .operand) :: rest, o, left => consume rest o (left ++ [w])
  | (w, .separator) :: rest, o, left => consume rest o (left ++ [w])
  | (w, .option none _ _) :: rest, o, left => consume rest o (left ++ [w])
  | (_, .option (some s) name inline) :: rest, o, left => do
    let next := match rest with
      | (v, .operand) :: _ => some v
      | _ => none
    let (acts, used) ← expand s name inline next
    let o ← acts.foldlM (fun o (s, v) => o.apply s v) o
    if used then
      match rest with
      | _ :: after => consume after o left
      | [] => consume [] o left
    else consume rest o left
termination_by ws => ws.length
decreasing_by
  all_goals first
    | exact Nat.lt_succ_self _
    | exact Nat.lt_trans (Nat.lt_succ_self _) (Nat.lt_succ_self _)

/-- Reads the arguments of the command line. -/
def Options.read (args : List String) : Request :=
  match classifyAll args with
  | .error msg => .misuse msg
  | .ok words =>
    match consume (args.zip words) {} [] with
    | .ok o => .run o
    | .error r => r

end QuoteMomentum.CommandLine
