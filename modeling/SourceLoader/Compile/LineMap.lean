import SourceLoader.Syntax.Parse
import SourceLoader.Syntax.Walk

/-!
# Line maps

A line map tells for every line of a generated text which line of the source it comes from, or
zero. The generated text is read again, and the tree is walked next to the tree that the text
was written from, as long as both walks agree. The first node that begins on a generated line
decides what the line comes from.
-/

namespace SourceLoader.LineMap

/-- Why there is no line map. -/
inductive Failure where
  /-- The generated text cannot be read. -/
  | unreadable (reason : ParseFailure)
  /-- A node stands behind the last line. -/
  | lineOutOfRange

/-- Enters the lines of two walks. -/
def enter : List WalkStop → List WalkStop → List Nat → Except Failure (List Nat)
  | o :: os, e :: es, map =>
    if o.title ≠ e.title then .ok map
    else
      match e.line?.getD 0, o.line?.getD 0 with
      | 0, _ | _, 0 => enter os es map
      | emitted + 1, source + 1 =>
        match map[emitted]? with
        | none => .error .lineOutOfRange
        | some 0 => enter os es (map.set emitted (source + 1))
        | some _ => enter os es map
  | _, _, map => .ok map

/-- The line map of a generated text, given the tree it was written from. -/
def build (tree : Tree) (generated : String) : Except Failure (List Nat) :=
  match Source.parse generated with
  | .error reason => .error (.unreadable reason)
  | .ok (emitted, _) =>
    enter tree.walk emitted.walk (List.replicate (generated.toList.count '\n' + 1) 0)

end SourceLoader.LineMap
