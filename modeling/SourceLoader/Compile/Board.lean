import SourceLoader.Failure

/-!
# The board of notices

The remarks of the parser and of the check go to one board, which all tasks share. What becomes of
one is decided by the first filter that applies to it. What is to be told goes to the listener:
that is the host, or a record that somebody has opened.
-/

namespace SourceLoader

/-- A remark about a file. -/
structure Notice where
  file : String
  warning : Warning
deriving DecidableEq, Repr

/-- What becomes of a notice. -/
inductive NoticeAction where
  | tell
  /-- It is told if it has not been told in this way before. -/
  | tellOnce
  | hide
  /-- It is an error. -/
  | raise
deriving DecidableEq, Repr

/-- Says what becomes of some notices. -/
structure NoticeFilter where
  action : NoticeAction
  applies : Notice → Bool

/-- Who is told. -/
inductive Listener where
  | host
  | record (number : Nat)
deriving DecidableEq, Repr

/-- A board. -/
structure Board where
  filters : List NoticeFilter := []
  /-- What becomes of a notice that no filter applies to. -/
  otherwise : NoticeAction := .tellOnce
  listener : Listener := .host
  /-- What each record was told. -/
  records : List (List Notice) := []
  /-- What the host was told. -/
  told : List Notice := []
  /-- What was told and is not told again. -/
  known : List Notice := []

namespace Board

/-- What becomes of a notice. -/
def actionOn (b : Board) (n : Notice) : NoticeAction :=
  ((b.filters.find? (·.applies n)).map NoticeFilter.action).getD b.otherwise

/-- Tells the listener. -/
def tell (b : Board) (n : Notice) : Board :=
  match b.listener with
  | .host => { b with told := b.told ++ [n] }
  | .record number => { b with records := b.records.modify number (· ++ [n]) }

/-- Puts a notice on the board. -/
def post (b : Board) (n : Notice) : Board × Except Failure Unit :=
  match b.actionOn n with
  | .tell => (b.tell n, .ok ())
  | .tellOnce =>
    if b.known.contains n then (b, .ok ())
    else ({ b.tell n with known := b.known ++ [n] }, .ok ())
  | .hide => (b, .ok ())
  | .raise => (b, .error (.host "SyntaxError" n.warning.remark.message))

/-- The same becomes of every notice. -/
def withAction (action : NoticeAction) (b : Board) : Board :=
  { b with filters := ⟨action, fun _ => true⟩ :: b.filters }

/-- Opens a record, which listens from now on. -/
def openRecord (b : Board) : Board :=
  { b with records := b.records ++ [[]], listener := .record b.records.length }

/-- What a record was told. -/
def record (b : Board) (number : Nat) : List Notice := b.records.getD number []

/-- A later board with the filters and the listener of an earlier one. -/
def restore (before after : Board) : Board :=
  { after with filters := before.filters, listener := before.listener }

end Board

end SourceLoader
