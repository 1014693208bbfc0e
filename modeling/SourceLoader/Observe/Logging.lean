import SourceLoader.Observe.Journal
import SourceLoader.Text.Unicode.Case

/-!
# Logging

How a host sets up logging, the lines that entries become, and the sink that turns calls of the
loader into entries. A sink is called with a level and values; the values are joined to the text
of the entry, and a level that no logger knows counts as information.
-/

namespace SourceLoader

namespace Level

/-- The level that a name stands for. -/
def ofName? (name : String) : Option Level := all.find? (·.title = name)

/-- Names of levels that loggers spell differently. -/
def aliases : List (String × Level) := [("warn", warning), ("log", info), ("trace", debug)]

/-- The level of a call of the sink. -/
def ofSink (name : String) : Level :=
  match aliases.find? (·.1 = name) with
  | some (_, level) => level
  | none => (ofName? name).getD info

end Level

namespace Logging

/-- The text of the values of a sink call. -/
def sinkText (values : List Data) : String := " ".intercalate (values.map Data.plain)

/-- The entry that a sink call becomes. -/
def sinkEntry (level : String) (values : List Data) : Entry := ⟨.ofSink level, sinkText values, []⟩

/-! ## Set-up -/

/-- How logging is set up. -/
structure Setup where
  level : String := "INFO"
  asJson : Bool := true
  withTime : Bool := true

/-- The steps that an entry goes through. -/
def Setup.processors (s : Setup) : List String :=
  (if s.withTime then ["TimeStamper"] else [])
    ++ ["add_log_level", "add_logger_name", "StackInfoRenderer", "ExceptionRenderer",
      if s.asJson then "JSONRenderer" else "ConsoleRenderer"]

/-- Weights by the name of a threshold. -/
def thresholds : List (String × Nat) :=
  [("CRITICAL", 50), ("FATAL", 50), ("ERROR", 40), ("WARNING", 30), ("WARN", 30), ("INFO", 20),
    ("DEBUG", 10), ("NOTSET", 0)]

/-- The weight below which entries are dropped. Case does not count in its name. -/
def Setup.threshold (s : Setup) : Except Failure Nat :=
  let name := Text.Unicode.upper s.level
  match thresholds.find? (·.1 = name) with
  | some (_, weight) => .ok weight
  | none => .error (.host "AttributeError" s!"module 'logging' has no attribute '{name}'")

/-! ## Lines -/

/-- The name of the logger. -/
def loggerName : String := "modloom"

/-- Sets a field. -/
def setField (name : String) (value : Data) : List (String × Data) → List (String × Data)
  | [] => [(name, value)]
  | f :: fs => if f.1 = name then (name, value) :: fs else f :: setField name value fs

mutual

/-- A value with those parts replaced that have no JSON form: they are shown as texts. -/
def jsonable : Data → Data
  | .list xs => .list (jsonableAll xs)
  | .tuple xs => .list (jsonableAll xs)
  | .dict es => .dict (jsonableEntries es)
  | .none => .none
  | .bool b => .bool b
  | .int n => .int n
  | .float x => .float x
  | .text s => .text s
  | d => .text d.shown

/-- Values with a JSON form. -/
def jsonableAll : List Data → List Data
  | [] => []
  | x :: xs => jsonable x :: jsonableAll xs

/-- Entries with a JSON form. -/
def jsonableEntries : List (Data × Data) → List (Data × Data)
  | [] => []
  | (k, v) :: es => (k, jsonable v) :: jsonableEntries es

end

/-- The line of an entry: its fields, the event, the level and the logger. -/
def line (e : Entry) : Except Failure String :=
  let fields := setField "event" (.text e.event) e.fields
  let fields := setField "level" (.text e.level.title) fields
  let fields := setField "logger" (.text loggerName) fields
  match Json.write .spaced (jsonable (.dict (fields.map fun f => (.text f.1, f.2)))) with
  | .ok s => .ok s
  | .error obstacle => .error (.unwritable obstacle)

/-- The lines of entries that are heavy enough. -/
def lines (threshold : Nat) (entries : List Entry) : List String :=
  (entries.filter fun e => threshold ≤ e.level.weight).filterMap fun e => (line e).toOption

end Logging

end SourceLoader
