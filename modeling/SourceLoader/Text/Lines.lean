/-!
# Lines of a text

Two ways to cut a text into lines. The parser knows three line ends: line feed, carriage
return, and the two in a row. A reader of diagnostics also breaks at the vertical tab, the
form feed, the separators U+001C to U+001E, the next-line control and the two Unicode
separators.
-/

namespace SourceLoader.Text

/-- Does `c` end a line of a diagnostic? -/
def isLineBreak (c : Char) : Bool :=
  c = '\n' || c = '\r' || c = '\x0b' || c = '\x0c' || c = '\x1c' || c = '\x1d' || c = '\x1e'
    || c = '\u0085' || c = '\u2028' || c = '\u2029'

/-- Lines without their ends. `line` is the line in hand, last character first, and `open`
tells whether it has begun: a line break at the very end starts no further line. -/
def splitLinesFrom (line : List Char) (isOpen : Bool) : List Char → List String
  | [] => if isOpen then [String.ofList line.reverse] else []
  | '\r' :: '\n' :: rest => String.ofList line.reverse :: splitLinesFrom [] false rest
  | c :: rest =>
    if isLineBreak c then String.ofList line.reverse :: splitLinesFrom [] false rest
    else splitLinesFrom (c :: line) true rest

/-- The lines of a text, without their ends. -/
def splitLines (s : String) : List String := splitLinesFrom [] false s.toList

/-- Lines with their ends. -/
def splitLinesKeepingFrom (line : List Char) (isOpen : Bool) : List Char → List String
  | [] => if isOpen then [String.ofList line.reverse] else []
  | '\r' :: '\n' :: rest =>
    String.ofList ('\n' :: '\r' :: line).reverse :: splitLinesKeepingFrom [] false rest
  | c :: rest =>
    if isLineBreak c then
      String.ofList (c :: line).reverse :: splitLinesKeepingFrom [] false rest
    else splitLinesKeepingFrom (c :: line) true rest

/-- The lines of a text, each with its end. -/
def splitLinesKeeping (s : String) : List String := splitLinesKeepingFrom [] false s.toList

/-- Writes every line end as a line feed, as the parser reads a text. -/
def unifyNewlines : List Char → List Char
  | [] => []
  | '\r' :: '\n' :: rest => '\n' :: unifyNewlines rest
  | '\r' :: rest => '\n' :: unifyNewlines rest
  | c :: rest => c :: unifyNewlines rest

/-- A text without carriage returns is read as it is. -/
theorem unifyNewlines_eq_self {cs : List Char} (h : '\r' ∉ cs) : unifyNewlines cs = cs := by
  fun_induction unifyNewlines cs with
  | case1 => rfl
  | case2 => simp at h
  | case3 => simp at h
  | case4 c rest _ _ ih => rw [ih fun hmem => h (List.mem_cons_of_mem c hmem)]

end SourceLoader.Text
