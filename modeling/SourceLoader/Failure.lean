import SourceLoader.Data.Shown
import SourceLoader.ErrorClass
import SourceLoader.Json.Reading
import SourceLoader.Json.Writing
import SourceLoader.Syntax.Parse
import SourceLoader.Syntax.Printer

/-!
# Failures

Every way in which a step of the library fails is one constructor, and `Failure.message` words
them all. `Failure.errorClass` tells the class under which a running module can catch it.
-/

namespace SourceLoader

/-- A step to a part of a value. -/
inductive Step where
  | name (field : String)
  | index (position : Nat)
deriving DecidableEq, Repr

/-- One way in which a value does not fit a model. -/
structure Misfit where
  kind : String
  place : List Step
  message : String
deriving DecidableEq, Repr

/-- Why a file cannot be read. -/
inductive FileFault where
  | missing
  | isDirectory
  | notDirectory
deriving DecidableEq, Repr

/-- Why bytes are no text. -/
structure DecodingFault where
  codec : String
  first : UInt8
  /-- The place of the first bad byte. -/
  start : Nat
  /-- The number of bad bytes. -/
  count : Nat
  reason : String
deriving DecidableEq, Repr

/-- Why a step fails. -/
inductive Failure where
  /-- A source is rejected. -/
  | rejected (error : SyntaxError)
  | nullCharacter
  /-- A tree cannot be written. -/
  | unprintable (fault : PrintFault)
  /-- A tree has a constant where it needs a name. -/
  | constantName (name : String)
  | lineOutOfRange
  /-- A module is required that is not in the registry. -/
  | notLoaded (path : String)
  /-- A module is registered twice. -/
  | alreadyRegistered (path : String)
  /-- A load would wait for itself. -/
  | circular (cycle : List String)
  /-- There is no source, maybe because a file is missing. -/
  | sourceNotFound (path : String) (cause : Option FileFault := none)
  /-- Another failure of the loader. -/
  | loader (message : String)
  | unwritable (obstacle : Json.Obstacle)
  | unreadable (text : String) (rejection : Json.Rejection)
  /-- A value does not fit a model. -/
  | misfits (model : String) (misfits : List Misfit)
  | file (fault : FileFault) (path : String)
  | undecodable (fault : DecodingFault)
  /-- An error that the host or a module raises. -/
  | raised (errorClass : ErrorClass) (arguments : List Data)
deriving Repr

namespace FileFault

/-- The number of the fault. -/
def number : FileFault → Nat
  | missing => 2
  | notDirectory => 20
  | isDirectory => 21

/-- The wording of the fault. -/
def message : FileFault → String
  | missing => "No such file or directory"
  | notDirectory => "Not a directory"
  | isDirectory => "Is a directory"

/-- The class of the fault. -/
def errorClass : FileFault → ErrorClass
  | missing => ⟨"FileNotFoundError"⟩
  | notDirectory => ⟨"NotADirectoryError"⟩
  | isDirectory => ⟨"IsADirectoryError"⟩

end FileFault

namespace DecodingFault

/-- The wording of the fault. -/
def message (f : DecodingFault) : String :=
  if f.count = 1 then
    s!"'{f.codec}' codec can't decode byte 0x{Text.hex 2 f.first.toNat} in position {f.start}: "
      ++ f.reason
  else
    s!"'{f.codec}' codec can't decode bytes in position {f.start}-{f.start + f.count - 1}: "
      ++ f.reason

end DecodingFault

namespace FaultClass

/-- The class of the errors that report a fault. -/
def errorClass : FaultClass → ErrorClass
  | grammar => ⟨"SyntaxError"⟩
  | indentation => ⟨"IndentationError"⟩
  | tabs => ⟨"TabError"⟩

end FaultClass

namespace Failure

/-- An error that is raised with one text. -/
def host (className message : String) : Failure := raised ⟨className⟩ [.text message]

/-- The failure to read a source. -/
def ofParse (file : String) : ParseFailure → Failure
  | .nullCharacter => nullCharacter
  | .rejected e => rejected (e.inFile file)

/-- The class of a failure. -/
def errorClass : Failure → ErrorClass
  | rejected e => e.fault.faultClass.errorClass
  | nullCharacter | unprintable _ | constantName _ => ⟨"ValueError"⟩
  | lineOutOfRange => ⟨"IndexError"⟩
  | notLoaded _ => ⟨"ModuleNotLoadedError"⟩
  | alreadyRegistered _ => ⟨"ModuleAlreadyRegisteredError"⟩
  | circular _ => ⟨"CircularDependencyError"⟩
  | sourceNotFound _ _ => ⟨"SourceNotFoundError"⟩
  | loader _ => ⟨"ModloomError"⟩
  | unwritable .hugeInteger => ⟨"ValueError"⟩
  | unwritable _ => ⟨"TypeError"⟩
  | unreadable _ (.flawed _ _) => ⟨"JSONDecodeError"⟩
  | unreadable _ (.hugeInteger _) => ⟨"ValueError"⟩
  | misfits _ _ => ⟨"ValidationError"⟩
  | file fault _ => fault.errorClass
  | undecodable _ => ⟨"UnicodeDecodeError"⟩
  | raised c _ => c

/-- What the arguments of an error say. A missing key is said in its literal form. -/
def argumentsText (c : ErrorClass) : List Data → String
  | [] => ""
  | [x] => if c.isBelow ⟨"KeyError"⟩ then x.shown else x.plain
  | [number, reason] =>
    if c.isBelow ⟨"OSError"⟩ then s!"[Errno {number.plain}] {reason.plain}"
    else (Data.tuple [number, reason]).shown
  | xs => (Data.tuple xs).shown

/-- The wording of a failure. -/
def message : Failure → String
  | rejected e => e.summary
  | nullCharacter => "source code string cannot contain null bytes"
  | unprintable fault => fault.message
  | constantName name => s!"identifier field can't represent '{name}' constant"
  | lineOutOfRange => "list index out of range"
  | notLoaded path => s!"{path} not found in module registry"
  | alreadyRegistered path => s!"Module already registered: {path}"
  | circular cycle => "Circular module dependency: " ++ " -> ".intercalate cycle
  | sourceNotFound path _ => s!"Module source not found: {path}"
  | loader message => message
  | unwritable obstacle => obstacle.message
  | unreadable text rejection => rejection.message text
  | misfits model ms =>
    let errors := if ms.length = 1 then "error" else "errors"
    s!"{ms.length} validation {errors} for {model}"
  | file fault path =>
    s!"[Errno {fault.number}] {fault.message}: " ++ Text.quoted (Text.ofString path)
  | undecodable fault => fault.message
  | raised c arguments => argumentsText c arguments

/-- Does the failure come from the loader itself? -/
def isOwn (f : Failure) : Bool := f.errorClass.isBelow ⟨"ModloomError"⟩

/-- The path that a failure of the loader is about. -/
def path? : Failure → Option String
  | notLoaded path | alreadyRegistered path | sourceNotFound path _ => some path
  | _ => none

/-- The cycle that a failure is about. -/
def cycle? : Failure → Option (List String)
  | circular cycle => some cycle
  | _ => none

/-- The class of the error that a failure follows from. -/
def cause? : Failure → Option ErrorClass
  | sourceNotFound _ cause => cause.map FileFault.errorClass
  | _ => none

/-- The texts that an iterable of texts yields. -/
def texts? : Data → Option (List String)
  | .text s => some (s.toList.map String.singleton)
  | .list xs | .tuple xs | .set xs => xs.mapM fun x => match x with
    | .text s => some s
    | _ => none
  | .dict es => es.mapM fun e => match e.1 with
    | .text s => some s
    | _ => none
  | _ => none

/-- The failure of a class, made with one argument. -/
def ofClass (c : ErrorClass) (argument : Data) : Failure :=
  match c.name with
  | "ModloomError" => loader argument.plain
  | "ModuleNotLoadedError" => notLoaded argument.plain
  | "ModuleAlreadyRegisteredError" => alreadyRegistered argument.plain
  | "SourceNotFoundError" => sourceNotFound argument.plain
  | "CircularDependencyError" =>
    match texts? argument with
    | some cycle => circular cycle
    | none => host "TypeError" s!"'{argument.typeName}' object is not iterable"
  | "SyntaxError" => rejected ⟨.custom .grammar argument.plain, none, none, none, none, none, none⟩
  | "IndentationError" =>
    rejected ⟨.custom .indentation argument.plain, none, none, none, none, none, none⟩
  | "TabError" => rejected ⟨.custom .tabs argument.plain, none, none, none, none, none, none⟩
  | "EnvironmentError" | "IOError" => raised ⟨"OSError"⟩ [argument]
  | _ => raised c [argument]

end Failure

end SourceLoader
