import SourceLoader.Failure

/-!
# Values of running modules

What the body of a module computes with. A value that never changes and is known by its content
alone is written down as such; everything else is a reference to an object in the memory of the
run. So two values are one and the same exactly if they are equal as terms.
-/

namespace SourceLoader

/-- A value of a running module. -/
inductive Value where
  | none
  | bool (value : Bool)
  | int (value : Int)
  | float (value : Double)
  | text (value : String)
  | bytes (value : List UInt8)
  | ellipsis
  /-- A type that belongs to the language. -/
  | type (name : String)
  /-- A class of errors that belongs to the language or to the loader. -/
  | errorClass (class_ : ErrorClass)
  /-- A function that belongs to the language. -/
  | builtin (name : String)
  /-- A module of the host. -/
  | hostModule (name : String)
  /-- A function of a module of the host. -/
  | hostFunction (module name : String)
  /-- An object in memory. -/
  | ref (address : Nat)
deriving DecidableEq, Repr, Inhabited

/-- Names with values, in the order in which they were set first. -/
abbrev Attributes := List (String × Value)

namespace Attributes

/-- The value of a name. -/
def get? (as : Attributes) (name : String) : Option Value := as.lookup name

/-- Sets a name. -/
def set (name : String) (value : Value) : Attributes → Attributes
  | [] => [(name, value)]
  | a :: as => if a.1 = name then (name, value) :: as else a :: set name value as

/-- Takes a name away. -/
def erase (as : Attributes) (name : String) : Attributes := as.filter (·.1 ≠ name)

end Attributes

/-- The code of a function: statements, or the expression of a `lambda`. -/
inductive Code where
  | statements (body : List Tree)
  | expression (body : Tree)
deriving Repr, Inhabited

/-- Where the code of a function was written. -/
structure Site where
  /-- The file. -/
  file : String
  /-- The mapping of the global names. -/
  globals : Nat
  /-- The mapping of the names that stand behind the global ones. -/
  builtins : Nat
  /-- The scopes around the code, the innermost first. -/
  scopes : List Nat := []
  /-- Annotations are kept as text. -/
  keepsHints : Bool := false
  /-- What stands in front of names of functions and classes. -/
  qualifier : String := ""
  /-- The class around the code. -/
  className : Option String := Option.none
deriving Repr, Inhabited

/-- A function of a module. -/
structure Function where
  name : String
  /-- The name with the functions and classes around it. -/
  fullName : String
  isAsync : Bool := false
  isGenerator : Bool := false
  /-- The parameters, as a tree. -/
  parameters : Tree
  /-- Defaults of the last positional parameters. -/
  defaults : List Value := []
  /-- Defaults of keyword-only parameters. -/
  keywordDefaults : Attributes := []
  code : Code
  /-- The names that are bound in the body. -/
  locals : List String := []
  /-- The names that the body declares global. -/
  globalNames : List String := []
  site : Site
  attributes : Attributes := []
deriving Repr, Inhabited

/-- A class of a module. -/
structure ClassObject where
  name : String
  bases : List Value := []
  attributes : Attributes := []
deriving Repr, Inhabited

/-- An error object. -/
structure Problem where
  /-- Its class. -/
  kind : Value
  arguments : List Value := []
  /-- The failure that the error reports, if it is one of the loader. -/
  failure : Option Failure := Option.none
  attributes : Attributes := []
  notes : List String := []
  /-- The error that this one was raised from. -/
  cause : Option Value := Option.none
  /-- The places in modules that the error has come through, the outermost first. -/
  trace : List (String × Nat) := []
deriving Repr, Inhabited

/-- What a coroutine will do. -/
inductive Pending where
  /-- Run a function in a scope. -/
  | call (function : Function) (scope : Nat)
  /-- Load the module that a specifier in a file stands for. -/
  | load (config : Nat) (file : String) (specifier : Value)
deriving Repr, Inhabited

/-- What a built-in function of a module does. -/
inductive ModuleTool where
  /-- Look up the exports of a loaded module. -/
  | require
  /-- Load a module. -/
  | load
deriving DecidableEq, Repr

namespace ModuleTool

/-- The name under which a body finds a tool. -/
def name : ModuleTool → String
  | require => "require"
  | load => "import_"

/-- The name of a tool in messages about its arguments. -/
def fullName (t : ModuleTool) : String := "instantiate_module.<locals>." ++ t.name

end ModuleTool

/-- An object in memory. -/
inductive Object where
  | list (items : List Value)
  | tuple (items : List Value)
  /-- A mapping, in the order of insertion. -/
  | dict (entries : List (Value × Value))
  | set (items : List Value) (isFrozen : Bool)
  /-- A module, with the mapping of its names. -/
  | module (names : Nat)
  /-- An object that has just its attributes. -/
  | namespace (attributes : Attributes)
  /-- What a module knows of itself: its path and its exports. -/
  | record (attributes : Attributes)
  | instance (class_ : Value) (attributes : Attributes)
  | «class» (object : ClassObject)
  | function (function : Function)
  /-- A tool that a file gets under some configuration. -/
  | tool (tool : ModuleTool) (config : Nat) (file : String)
  /-- A function with its first argument. -/
  | method (receiver function : Value)
  /-- A method of a value that belongs to the language. -/
  | builtinMethod (receiver : Value) (name : String)
  | problem (problem : Problem)
  /-- A coroutine; nothing is left to do once it has begun. -/
  | coroutine (name : String) (pending : Option Pending)
  | generator (name : String) (pending : Option Pending)
  /-- Values to go through, as a type of the language hands them out. -/
  | sequence (typeName : String) (items : List Value)
  | slice (lower upper step : Value)
  /-- The names of a running function. A name that is not bound yet has no value. -/
  | scope (names : List (String × Option Value))
  /-- An object of which only the type is known. -/
  | plain (typeName : String)
deriving Repr, Inhabited

end SourceLoader
