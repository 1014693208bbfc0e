/-!
# Classes of errors

The classes that errors of the library and of running modules belong to. A class is given by
its name; a table tells the classes right above it.
-/

namespace SourceLoader

/-- A class of errors, by its name. -/
structure ErrorClass where
  name : String
deriving DecidableEq, Repr, Inhabited

namespace ErrorClass

/-- The class of all errors that a module may catch by default. -/
def exception : ErrorClass := ⟨"Exception"⟩

/-- The class above all others. -/
def root : ErrorClass := ⟨"BaseException"⟩

/-- Each class with those that are below it alone. -/
def families : List (String × List String) :=
  [("BaseException", ["Exception", "GeneratorExit", "KeyboardInterrupt", "SystemExit"]),
    ("Exception", ["ArithmeticError", "AssertionError", "AttributeError", "BufferError",
      "EOFError", "ImportError", "LookupError", "MemoryError", "NameError", "OSError",
      "ReferenceError", "RuntimeError", "StopAsyncIteration", "StopIteration", "SyntaxError",
      "SystemError", "TypeError", "ValueError", "Warning", "ModloomError"]),
    ("ArithmeticError", ["FloatingPointError", "OverflowError", "ZeroDivisionError"]),
    ("ImportError", ["ModuleNotFoundError"]),
    ("LookupError", ["IndexError", "KeyError"]),
    ("NameError", ["UnboundLocalError"]),
    ("OSError", ["BlockingIOError", "ChildProcessError", "ConnectionError", "FileExistsError",
      "FileNotFoundError", "InterruptedError", "IsADirectoryError", "NotADirectoryError",
      "PermissionError", "ProcessLookupError", "TimeoutError"]),
    ("ConnectionError", ["BrokenPipeError", "ConnectionAbortedError",
      "ConnectionRefusedError", "ConnectionResetError"]),
    ("RuntimeError", ["NotImplementedError", "RecursionError"]),
    ("SyntaxError", ["IndentationError"]),
    ("IndentationError", ["TabError"]),
    ("ValueError", ["UnicodeError", "JSONDecodeError", "ValidationError"]),
    ("UnicodeError", ["UnicodeDecodeError", "UnicodeEncodeError", "UnicodeTranslateError"]),
    ("Warning", ["BytesWarning", "DeprecationWarning", "EncodingWarning", "FutureWarning",
      "ImportWarning", "PendingDeprecationWarning", "ResourceWarning", "RuntimeWarning",
      "SyntaxWarning", "UnicodeWarning", "UserWarning"]),
    ("ModloomError", ["ModuleNotLoadedError", "ModuleAlreadyRegisteredError",
      "CircularDependencyError", "SourceNotFoundError"])]

/-- The classes right above a class, the first one first. -/
def parents (c : ErrorClass) : List ErrorClass :=
  if c.name = "ModuleNotLoadedError" then [⟨"ModloomError"⟩, ⟨"LookupError"⟩]
  else (families.filter fun f => f.2.contains c.name).map fun f => ⟨f.1⟩

/-- Appends the classes of `more` that are not in `found`. -/
def addNew (found more : List ErrorClass) : List ErrorClass :=
  found ++ more.filter fun c => !found.contains c

/-- A class and those above it, up to `depth` steps away. -/
def lineageWithin : Nat → ErrorClass → List ErrorClass
  | 0, c => [c]
  | depth + 1, c =>
    let above := c.parents.map (lineageWithin depth)
    -- a class above all stands behind every class below it
    let common (d : ErrorClass) : Bool := d = exception || d = root
    let named := above.foldl (fun found l => addNew found (l.filter (!common ·))) [c]
    addNew named (above.foldl addNew [])

/-- A class and all classes above it, the closest ones first. -/
def lineage (c : ErrorClass) : List ErrorClass := lineageWithin 5 c

/-- Is `c` the class `d` or below it? -/
def isBelow (c d : ErrorClass) : Bool := c.lineage.contains d

/-- Is there a class of this name that belongs to the language? -/
def isBuiltin (name : String) : Bool :=
  families.any fun f =>
    (f.1 = name || f.2.contains name)
      && !(["ModloomError", "ModuleNotLoadedError", "ModuleAlreadyRegisteredError",
        "CircularDependencyError", "SourceNotFoundError", "JSONDecodeError",
        "ValidationError"].contains name)

end ErrorClass

end SourceLoader
