import SourceLoader.Text.Lines
import SourceLoader.Text.Unicode.Printable

/-!
# Diagnostics

A diagnostic shows where in a source something is wrong: the path, then the line in question
with up to two lines above and up to three below, each with its number, and below the line a
caret that points at the column, followed by the message. Lines and columns count from one; a
place outside of the source is moved to the nearest one inside.
-/

namespace SourceLoader.Diagnostic

/-- Lines shown above the line in question. -/
def linesAbove : Nat := 2

/-- Lines shown below the line in question. -/
def linesBelow : Nat := 3

/-- Drops blanks at the end. -/
def trimEnd (s : String) : String :=
  String.ofList (s.toList.reverse.dropWhile fun c => Text.Unicode.isBlank c.toNat).reverse

/-- Sets a text at the right of a field. -/
def alignRight (width : Nat) (s : String) : String :=
  String.ofList (List.replicate (width - s.length) ' ') ++ s

/-- What stands before the caret: blanks, and tabs where the line has tabs. -/
def padding (text : String) (column : Nat) : String :=
  String.ofList ((text.toList.take (column - 1)).map fun c => if c = '\t' then c else ' ')

/-- A line of the frame; `mark` tells whether it is the line in question. -/
def row (width : Nat) (mark : Bool) (number : Nat) (text : String) : String :=
  trimEnd ((if mark then "> " else "  ") ++ alignRight width (toString number) ++ " | " ++ text)

/-- The line with the caret. -/
def caretRow (width : Nat) (text : String) (column : Nat) (message : String) : String :=
  "  " ++ alignRight width "" ++ " | " ++ padding text column ++ "^ " ++ message

/-- The lines of a source; the empty source has one. -/
def sourceLines (source : String) : List String :=
  match Text.splitLines source with
  | [] => [""]
  | lines => lines

/-- The rows of the frame around a line. -/
def frame (message : String) (lines : List String) (line column : Nat) : List String :=
  let first := max (line - linesAbove) 1
  let last := min (line + linesBelow) lines.length
  let width := (toString last).length
  (List.range' first (last + 1 - first)).flatMap fun number =>
    let text := (lines[number - 1]?).getD ""
    if number = line then
      [row width true number text, caretRow width text column message]
    else [row width false number text]

/-- The diagnostic of a fault at a place. -/
def format (message path source : String) (line column : Int) : String :=
  let lines := sourceLines source
  let line := min (max line 1).toNat lines.length
  let column := (max column 1).toNat
  "\n" ++ path ++ "\n" ++ "\n".intercalate (frame message lines line column) ++ "\n"

end SourceLoader.Diagnostic
