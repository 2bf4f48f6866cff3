import NewGrf.Text.Utf8

namespace NewGrf.Text

/-- The lines of a text, without their ends. What follows the last end is a line if it holds
anything. -/
def linesFrom : List Char → List Char → List String
  | [], [] => []
  | [], line => [String.ofList line.reverse]
  | '\r' :: '\n' :: rest, line => String.ofList line.reverse :: linesFrom rest []
  | '\n' :: rest, line => String.ofList line.reverse :: linesFrom rest []
  | '\r' :: rest, line => String.ofList line.reverse :: linesFrom rest []
  | c :: rest, line => linesFrom rest (c :: line)

def lines (s : String) : List String := linesFrom s.toList []

/-- The lines of the start of a text that are closed by a line end. A carriage return at its end may
be the half of one. -/
def closedLines (s : String) : List String :=
  if s.endsWith "\n" then lines s else (lines s).dropLast

def pieceSize : Nat := 0x2000

/-- The lines of a file, and whether it is text to its end. Of a file that is not, only the lines
are there that are complete before the piece in which the fault is found. -/
def fileLines (bytes : ByteArray) : List String × Bool :=
  match Utf8.decode bytes with
  | (text, .complete) => (lines text, true)
  | (text, .truncated _) => (closedLines text, false)
  | (_, .broken f) =>
    let piece := (f.start + f.length) / pieceSize
    (closedLines (Utf8.decode (bytes.extract 0 (piece * pieceSize))).1, false)

end NewGrf.Text
