import SourceLoader.Body.Evaluate
import SourceLoader.Object.World

/-!
# Running a module

The text of a compiled module runs once, in names of its own. Behind the global names stand the
names of the language and a few more: the exports of the module, its record, the directory of its
file, and the tools to look up and to load other modules. What the record says of the exports at
the end is what the module exports.

When the body fails and there is a line map, the error gets a note on the line of the source that
the failing line was made from.
-/

namespace SourceLoader

namespace Instantiate

/-- The name of the module in a file. -/
def moduleName (file : String) : String :=
  let stem := Path.stem (Path.baseName file)
  if stem = "" then file else stem

/-- The line at which an error left the code of a file: the innermost one of its trace. -/
def failingLine? (trace : List (String × Nat)) (file : String) : Option Nat :=
  ((trace.filter (·.1 = file)).getLast?).map Prod.snd

/-- The note on the source line of a failing line. A line without a source gets none. -/
def noteOf? (file : String) (lineMap : List Int) (trace : List (String × Nat)) :
    Option String := do
  let line ← failingLine? trace file
  let place ← if line = 0 then lineMap.getLast? else lineMap[line - 1]?
  if place = 0 then none
  else some s!"{file}: generated line {line} comes from source line {place}"

/-- Adds a note to an error that leaves the body of a file. -/
def annotate {α : Type} (file : String) (lineMap : Option (List Int)) (x : Eval α) : Eval α :=
  x.afterwards fun r =>
    match r with
    | .ok a => pure a
    | .error e => do
      Eval.modifyMemory fun m =>
        match m.get? e.problem, noteOf? file (lineMap.getD []) e.trace with
        | some (.problem p), some note =>
          if m.isBelow p.kind (.errorClass .exception) then
            m.put e.problem (.problem { p with notes := p.notes ++ [note] })
          else m
        | _, _ => m
      Eval.throw e

/-- The tree of a text that can run. -/
def treeOf (file source : String) : Except Failure Tree :=
  match Source.parse source with
  | .error e => .error (.ofParse file e)
  | .ok (t, _) =>
    match Check.module t with
    | .ok _ => .ok t
    | .error e => .error (.rejected (e.inFile file))

/-- What a module starts with. -/
structure Fresh where
  /-- The mapping of its names. -/
  names : Nat
  /-- The mapping of the names behind them. -/
  builtins : Nat
  /-- Its record. -/
  record : Value

/-- The address of a value. -/
def addressOf : Value → Nat
  | .ref address => address
  | _ => 0

/-- Makes the names of a module. -/
def makeNames (E : Engine) (config : ConfigId) (file : String) : Eval Fresh := do
  let unset := ["__doc__", "__package__", "__loader__", "__spec__"].map fun s =>
    (Value.text s, Value.none)
  let names ← Eval.add (.dict ((.text "__name__", .text (moduleName file)) :: unset
    ++ [(.text "__file__", .text file)]))
  let exports ← Eval.add (.module (addressOf names))
  let record ← Eval.add (.record [("path", .text file), ("exports", exports)])
  let directory ← Eval.ofExcept ((E.resolver config).apply file ".")
  let require ← Eval.add (.tool .require config file)
  let load ← Eval.add (.tool .load config file)
  let builtins ← Eval.add (.dict [(.text "exports", exports), (.text "require", require),
    (.text "module", record), (.text "import_", load), (.text "__dirname__", .text directory)])
  Eval.modifyMemory (·.setName (addressOf names) "__builtins__" builtins)
  pure { names := addressOf names, builtins := addressOf builtins, record }

/-- Where the code of a module stands. -/
def environment (file : String) (fresh : Fresh) (future : Future) : Env :=
  { site := { file
              globals := fresh.names
              builtins := fresh.builtins
              keepsHints := future.postponesHints } }

/-- Keeps the lines of a source. -/
def keepLines (file source : String) : Act Unit :=
  Act.modify fun w =>
    { w with lines := (file, Text.splitLinesKeeping source) :: w.lines.filter (·.1 ≠ file) }

/-- Runs the statements of a module. -/
def runBody (E : Engine) (file : String) (fresh : Fresh) (t : Tree) : Eval Unit := do
  let body := t.children
  let future := (Future.ofModule t).toOption.getD {}
  Statement.setUpNames fresh.names body
  let _ ← (E.block (environment file fresh future) body).asCall

/-- What a text needs to run: its names and its tree. -/
def prepare (E : Engine) (config : ConfigId) (file source : String) : Eval (Fresh × Tree) := do
  let fresh ← makeNames E config file
  let t ← Eval.ofExcept (treeOf file source)
  pure (fresh, t)

/-- Runs a text. The result are its exports. -/
def execute (E : Engine) (file : String) (lineMap : Option (List Int)) (fresh : Fresh)
    (t : Tree) : Eval Value := do
  annotate file lineMap (runBody E file fresh t)
  Attribute.get fresh.record "exports"

end Instantiate

open Instantiate in
/-- Runs a compiled module. The result are its exports. -/
def instantiate (E : Engine) (config : ConfigId) (file source : String)
    (lineMap : Option (List Int)) : Act Value := do
  let (fresh, t) ← Call.guarded (prepare E config file source)
  keepLines file source
  Call.guarded (execute E file lineMap fresh t)

end SourceLoader
