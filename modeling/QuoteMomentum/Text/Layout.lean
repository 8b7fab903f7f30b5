/-!
# Aligning text in columns

Cells of the table and fields of log lines are aligned by counting characters
(code points): a text shorter than the width is filled with spaces on one
side, and a longer one is left as it is.

A text is cut into lines at every line break: line feed, carriage return
(with a line feed after it, the two are one break), vertical tab, form feed,
the file, group and record separators, next line, and the line and paragraph
separators. A final break ends the last line and starts none.
-/

namespace QuoteMomentum.Text

/-- Right-aligns `s` in `width` characters. -/
def alignRight (width : Nat) (s : String) : String :=
  String.ofList (List.replicate (width - s.length) ' ') ++ s

/-- Left-aligns `s` in `width` characters. -/
def alignLeft (width : Nat) (s : String) : String :=
  s ++ String.ofList (List.replicate (width - s.length) ' ')

/-- Whether a character breaks a line. -/
def isLineBreak (c : Char) : Bool :=
  [0x0A, 0x0B, 0x0C, 0x0D, 0x1C, 0x1D, 0x1E, 0x85, 0x2028, 0x2029].contains c.toNat

/-- The lines of `cs`, with `line` the characters of the current line so far,
last first. -/
def linesFrom : List Char → List Char → List String
  | [], line => if line.isEmpty then [] else [String.ofList line.reverse]
  | '\r' :: '\n' :: rest, line => String.ofList line.reverse :: linesFrom rest []
  | c :: rest, line =>
    if isLineBreak c then String.ofList line.reverse :: linesFrom rest []
    else linesFrom rest (c :: line)

/-- The lines of a text. -/
def splitLines (s : String) : List String := linesFrom s.toList []

/-- `n` copies of a character. -/
def repeatChar (n : Nat) (c : Char) : String :=
  String.ofList (List.replicate n c)

theorem length_alignRight (width : Nat) (s : String) :
    (alignRight width s).length = max width s.length := by
  simp [alignRight, String.length_append]
  omega

theorem length_alignLeft (width : Nat) (s : String) :
    (alignLeft width s).length = max width s.length := by
  simp [alignLeft, String.length_append]
  omega

end QuoteMomentum.Text
