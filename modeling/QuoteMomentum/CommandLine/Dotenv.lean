import QuoteMomentum.Settings.Load

/-!
# Variables from a `.env` file

Once its options are read, the program looks for a file `.env` in its own
directory and in each directory above it, up to the root, and takes the first
it finds: every variable that file gives a value to, and that the environment
does not set already, is set before the settings are loaded.

The file is read as text, its line ends made `\n`, and taken apart one
statement at a time:

* blanks and empty lines between statements are passed over;
* a statement is `[export ]KEY[=VALUE][ # comment]`, ended by a line end: the
  key is quoted in single quotes, or runs up to the first `=`, `#` or blank;
* a value in single quotes takes `\\` and `\'` as escapes, one in double
  quotes also `\"` and `\a \b \f \n \r \t \v`, and either may run over lines;
  its closing quote is the first one without a backslash before it, or, when
  there is none, the last one. An unquoted value is the rest of the line, less
  a comment (the first run of blanks followed by `#`, and all after it) and
  its trailing blanks;
* a line that starts with `#` is a comment, and a statement without `=` names
  a variable without a value, which sets nothing;
* a statement that cannot be read is skipped to the end of the line where
  reading stopped.

In each value, in the order of the statements, `${NAME}` and
`${NAME:-DEFAULT}` are replaced by the variable as the environment sets it,
else as an earlier statement of the file gave it, else by the default (or
nothing).
-/

namespace QuoteMomentum.CommandLine.Dotenv

/-- A statement of the file: the variable it names and its value, when it has
each. A statement that could not be read names none. -/
structure Statement where
  key : Option String
  value : Option String
  deriving Repr, DecidableEq

/-- A blank that does not end a line. -/
def isBlank (c : Char) : Bool := Text.isSpace c && c != '\n'

/-! ## Reading statements -/

/-- The characters up to the first quote `q` that no backslash stands before
(`prev` is the character before the first), and those after it. -/
def firstUnescaped (q : Char) : Char → List Char → Option (List Char × List Char)
  | _, [] => none
  | prev, c :: rest =>
    if c = q ∧ prev ≠ '\\' then some ([], rest)
    else (firstUnescaped q c rest).map fun (body, after) => (c :: body, after)

/-- The characters before the last quote `q`, and those after it. -/
def lastQuote (q : Char) : List Char → Option (List Char × List Char)
  | [] => none
  | c :: rest =>
    match lastQuote q rest with
    | some (body, after) => some (c :: body, after)
    | none => if c = q then some ([], rest) else none

/-- The inside of a value quoted by `q`, after its opening quote, and what
follows its closing quote. -/
def quotedBody (q : Char) (cs : List Char) : Option (List Char × List Char) :=
  (firstUnescaped q q cs).or (lastQuote q cs)

/-- The escapes of a single-quoted value. -/
def singleEscape : Char → Option Char
  | '\\' => some '\\'
  | '\'' => some '\''
  | _ => none

/-- The escapes of a double-quoted value. -/
def doubleEscape : Char → Option Char
  | '\\' => some '\\'
  | '\'' => some '\''
  | '"' => some '"'
  | 'a' => some '\x07'
  | 'b' => some '\x08'
  | 'f' => some '\x0c'
  | 'n' => some '\n'
  | 'r' => some '\r'
  | 't' => some '\t'
  | 'v' => some '\x0b'
  | _ => none

/-- The escapes of `table` replaced, from left to right. -/
def unescape (table : Char → Option Char) : List Char → List Char
  | '\\' :: c :: rest =>
    match table c with
    | some d => d :: unescape table rest
    | none => '\\' :: unescape table (c :: rest)
  | c :: rest => c :: unescape table rest
  | [] => []

/-- A line without its comment: from the first run of white space that a `#`
follows. -/
def cutComment : List Char → List Char
  | [] => []
  | c :: rest =>
    if Text.isSpace c && (rest.dropWhile Text.isSpace).head? == some '#' then []
    else c :: cutComment rest

/-- The key of a statement and what follows it; none for a comment line. A
statement whose key cannot be read fails where it starts. -/
def keyOf (cs : List Char) : Except (List Char) (Option String × List Char) :=
  match cs with
  | '#' :: _ => .ok (none, cs)
  | '\'' :: rest =>
    let k := rest.takeWhile (· != '\'')
    match rest.drop k.length with
    | '\'' :: after => if k.isEmpty then .error cs else .ok (some (String.ofList k), after)
    | _ => .error cs
  | _ =>
    let k := cs.takeWhile fun c => c != '=' && c != '#' && !Text.isSpace c
    if k.isEmpty then .error cs else .ok (some (String.ofList k), cs.drop k.length)

/-- The value after `=` and what follows it. A quoted value without its
closing quote fails at its opening quote. -/
def valueOf (cs : List Char) : Except (List Char) (String × List Char) :=
  match cs with
  | '\'' :: rest =>
    match quotedBody '\'' rest with
    | some (body, after) => .ok (String.ofList (unescape singleEscape body), after)
    | none => .error cs
  | '"' :: rest =>
    match quotedBody '"' rest with
    | some (body, after) => .ok (String.ofList (unescape doubleEscape body), after)
    | none => .error cs
  | _ =>
    let line := cs.takeWhile (· != '\n')
    .ok (String.ofList ((cutComment line).reverse.dropWhile Text.isSpace).reverse, cs.drop line.length)

/-- The blanks and the comment at the end of a statement, when a `#` follows
the blanks. -/
def dropComment (cs : List Char) : List Char :=
  match cs.dropWhile isBlank with
  | '#' :: rest => rest.dropWhile (· != '\n')
  | _ => cs

/-- A statement from its key to the end of its line, or the characters where
reading it stopped. -/
def body (cs : List Char) : Except (List Char) (Statement × List Char) := do
  let (key, cs) ← keyOf cs
  let cs := cs.dropWhile isBlank
  let (value, cs) ← match cs with
    | '=' :: rest => do
      let (v, after) ← valueOf (rest.dropWhile isBlank)
      pure (some v, after)
    | _ => pure (none, cs)
  let cs := dropComment cs
  match cs.dropWhile isBlank with
  | [] => pure (⟨key, value⟩, [])
  | '\n' :: rest => pure (⟨key, value⟩, rest)
  | _ => throw cs

/-- `export` and the blanks after it, when a statement starts with them. -/
def dropExport (cs : List Char) : List Char :=
  match cs with
  | 'e' :: 'x' :: 'p' :: 'o' :: 'r' :: 't' :: c :: rest =>
    if isBlank c then rest.dropWhile isBlank else cs
  | _ => cs

/-- The next statement and what follows it; one that cannot be read names no
variable and ends with the line where reading stopped. -/
def statement (cs : List Char) : Statement × List Char :=
  match body (dropExport (cs.dropWhile Text.isSpace)) with
  | .ok r => r
  | .error stop =>
    match stop.dropWhile (· != '\n') with
    | '\n' :: rest => (⟨none, none⟩, rest)
    | rest => (⟨none, none⟩, rest)

/-- The statements of `cs`; every statement reads at least one character, so
`fuel` as long as the text reads them all. -/
def statements : Nat → List Char → List Statement
  | 0, _ => []
  | fuel + 1, cs =>
    if (cs.dropWhile Text.isSpace).isEmpty then []
    else
      let (st, rest) := statement cs
      st :: statements fuel rest

/-- The statements of a file. -/
def parse (text : String) : List Statement :=
  let cs := (Settings.fileText text).toList
  statements cs.length cs

/-! ## Values -/

/-- The variable a value names at its start, `${NAME}` or `${NAME:-DEFAULT}`,
and what follows it. -/
def variableAt (cs : List Char) : Option (String × Option String × List Char) :=
  match cs with
  | '$' :: '{' :: rest =>
    let name := rest.takeWhile fun c => c != '}' && c != ':'
    match rest.drop name.length with
    | '}' :: after => some (String.ofList name, none, after)
    | ':' :: '-' :: r =>
      let d := r.takeWhile (· != '}')
      match r.drop d.length with
      | '}' :: after => some (String.ofList name, some (String.ofList d), after)
      | _ => none
    | _ => none
  | _ => none

/-- A value with each variable it names replaced through `get`, its default,
or nothing. -/
def expand (get : String → Option String) : Nat → List Char → List Char
  | 0, _ => []
  | _ + 1, [] => []
  | fuel + 1, c :: rest =>
    match variableAt (c :: rest) with
    | some (name, default, after) =>
      ((get name).getD (default.getD "")).toList ++ expand get fuel after
    | none => c :: expand get fuel rest

/-- The names of the variables a value names. -/
def names : Nat → List Char → List String
  | 0, _ => []
  | _ + 1, [] => []
  | fuel + 1, c :: rest =>
    match variableAt (c :: rest) with
    | some (name, _, after) => name :: names fuel after
    | none => names fuel rest

/-- A key given a value, in place when it has one already. -/
def assign (vs : List (String × Option String)) (k : String) (v : Option String) :
    List (String × Option String) :=
  if vs.any (·.1 == k) then vs.map fun p => if p.1 == k then (k, v) else p
  else vs ++ [(k, v)]

/-- The variables of the file, each with its value expanded: a variable the
environment sets is read from it, else from the statements before. -/
def resolve (env : Settings.Environment) (sts : List Statement) : List (String × Option String) :=
  sts.foldl (fun vs st =>
    match st.key with
    | none => vs
    | some k =>
      let get (name : String) : Option String :=
        (env.lookup name).or ((vs.lookup name).map (·.getD ""))
      assign vs k (st.value.map fun v => String.ofList (expand get v.length v.toList))) []

/-- The variables the values of a file name, which the environment is asked
for. -/
def referenced (text : String) : List String :=
  (parse text).flatMap fun st => match st.value with
    | some v => names v.length v.toList
    | none => []

/-- The environment once the file is read: the variables the file gives a
value to and the environment does not set, after those it sets. -/
def load (env : Settings.Environment) (text : String) : Settings.Environment :=
  env ++ (resolve env (parse text)).filterMap fun (k, v) =>
    if (env.lookup k).isSome then none else v.map (k, ·)

/-- The files a program in `dir` reads its variables from, nearest first:
`.env` in `dir` and in each directory above it. -/
def candidates (dir : String) : List String :=
  let parts := (dir.splitOn "/").filter (!·.isEmpty)
  (List.range (parts.length + 1)).reverse.map fun n =>
    "/" ++ String.join ((parts.take n).map (· ++ "/")) ++ ".env"

/-! ## What the file cannot change -/

/-- **A variable the environment sets keeps its value.** -/
theorem lookup_load_of_set {env : Settings.Environment} {k : String} (h : (env.lookup k).isSome)
    (text : String) : (load env text).lookup k = env.lookup k := by
  obtain ⟨v, hv⟩ := Option.isSome_iff_exists.1 h
  rw [load, List.lookup_append, hv, Option.some_or]

/-! A file with an exported key, a quoted value and its comment, a comment
line, a value naming a variable and a line that cannot be read. -/

example : load [("HOME", "/h")]
    "export A='x y' # note\n#B=1\nC=${A}${HOME}\n=bad\nD=\"t\\tu\"" =
      [("HOME", "/h"), ("A", "x y"), ("C", "x y/h"), ("D", "t\tu")] := by
  decide

end QuoteMomentum.CommandLine.Dotenv
