import SourceLoader.Body.Method

/-!
# Functions and types of the language

What `len`, `getattr`, `str` and their like do with their arguments, what they refuse, and the
functions of the modules that the host brings along.
-/

namespace SourceLoader

namespace Builtin

/-- Calls a method of a class on a value, if the class has it. -/
def special (E : Engine) (env : Env) (v : Value) (name : String) (args : List Value) :
    Eval (Option Value) := do
  let m ← Eval.memory
  let isObject := match m.object? v with
    | some (.instance _ _) | some (.problem _) => true
    | _ => false
  if !isObject then return none
  match Attribute.inClasses m (m.lineage (m.typeOf v)) name with
  | some f => return some (← E.call env f (v :: args) [])
  | none => return none

/-- The plain form of a value, as its class wants it. -/
def plainText (E : Engine) (env : Env) (v : Value) : Eval String := do
  let m ← Eval.memory
  match ← special E env v "__str__" [] with
  | some (.text s) => return s
  | some _ => Eval.typeError "__str__ returned non-string"
  | none =>
    match m.problem? v with
    | some _ => return m.plain v
    | none =>
      match ← special E env v "__repr__" [] with
      | some (.text s) => return s
      | _ => return m.plain v

/-- The literal form of a value, as its class wants it. -/
def literalText (E : Engine) (env : Env) (v : Value) : Eval String := do
  let m ← Eval.memory
  match ← special E env v "__repr__" [] with
  | some (.text s) => return s
  | _ => return m.shown v

/-- The number of elements of a value. -/
def length (E : Engine) (env : Env) (v : Value) : Eval Value := do
  let m ← Eval.memory
  let ofType (n : Nat) : Eval Value := pure (.int n)
  match v, m.object? v with
  | .text s, _ => ofType s.length
  | .bytes bs, _ => ofType bs.length
  | _, some (.list xs) | _, some (.tuple xs) | _, some (.set xs _) => ofType xs.length
  | _, some (.dict es) => ofType es.length
  | v, some (.sequence name xs) =>
    if ["range", "dict_keys", "dict_values", "dict_items"].contains name then ofType xs.length
    else Eval.typeError s!"object of type '{m.shownType v}' has no len()"
  | v, _ =>
    match ← special E env v "__len__" [] with
    | some n => pure n
    | none => Eval.typeError s!"object of type '{m.shownType v}' has no len()"

/-- Is a value of one of some classes? -/
def isInstance (isOf : Value → Bool) (message : String) (c : Value) : Eval Bool := do
  let m ← Eval.memory
  match m.object? c with
  | some (.tuple cs) =>
    if cs.all m.isClass then pure (cs.any isOf) else Eval.typeError message
  | _ => if m.isClass c then pure (isOf c) else Eval.typeError message

/-- Reads a whole number from a text. -/
def intOfText? (base : Nat) (s : String) : Option Int :=
  let cs := TextMethod.trimEnd TextMethod.isBlank (s.toList.dropWhile TextMethod.isBlank)
  let (isNegative, cs) := match cs with
    | '-' :: rest => (true, rest)
    | '+' :: rest => (false, rest)
    | cs => (false, cs)
  let isDigit (c : Char) : Bool := match Text.Unicode.hexDigit? c with
    | some d => d < base
    | none => false
  let isGrouped := (cs.head?.map isDigit).getD false && (cs.getLast?.map isDigit).getD false
    && cs.all (fun c => isDigit c || c = '_')
    && (TextMethod.splitAt ['_', '_'] (cs.length + 1) 1 [] cs).length = 1
  if isGrouped then
    let n : Int := Number.ofDigits base (cs.filter (· ≠ '_'))
    some (if isNegative then -n else n)
  else none

/-- A value as a whole number. -/
def toInt (args : List Value) : Eval Value := do
  let m ← Eval.memory
  match args with
  | [] => pure (.int 0)
  | [.text s] =>
    match intOfText? 10 s with
    | some n => pure (.int n)
    | none =>
      Eval.error "ValueError" s!"invalid literal for int() with base 10: {m.shown (.text s)}"
  | [.text s, .int base] =>
    match intOfText? base.toNat s with
    | some n => pure (.int n)
    | none =>
      Eval.error "ValueError" s!"invalid literal for int() with base {base}: {m.shown (.text s)}"
  | [.float x] =>
    if x.isNaN then Eval.error "ValueError" "cannot convert float NaN to integer"
    else if !x.isFinite then
      Eval.error "OverflowError" "cannot convert float infinity to integer"
    else
      let (n, d) := Format.fraction x
      let n : Int := (n / d : Nat)
      pure (.int (if x.isNegative then -n else n))
  | [v] =>
    match v.int? with
    | some n => pure (.int n)
    | none => Eval.typeError ("int() argument must be a string, a bytes-like object or a real "
      ++ s!"number, not '{m.shownType v}'")
  | args => Eval.typeError s!"int() takes at most 2 arguments ({args.length} given)"

/-- Reads a real number from a text. -/
def floatOfText? (s : String) : Option Double :=
  let cs := TextMethod.trimEnd TextMethod.isBlank (s.toList.dropWhile TextMethod.isBlank)
  let (isNegative, cs) := match cs with
    | '-' :: rest => (true, rest)
    | '+' :: rest => (false, rest)
    | cs => (false, cs)
  let signed (x : Double) : Double := if isNegative then ⟨x.bits ^^^ 0x8000000000000000⟩ else x
  let lower := cs.map Char.toLower
  if lower = "inf".toList || lower = "infinity".toList then some (signed ⟨0x7FF0000000000000⟩)
  else if lower = "nan".toList then some ⟨0x7FF8000000000000⟩
  else
    let (mantissa, exponent) := cs.span fun c => c ≠ 'e' && c ≠ 'E'
    let (whole, fraction) := mantissa.span (· ≠ '.')
    let digits := whole ++ fraction.drop 1
    let power := match exponent.drop 1 with
      | '-' :: ds => ds
      | '+' :: ds => ds
      | ds => ds
    let isNumber := !digits.isEmpty && digits.all Char.isDigit
      && (exponent.isEmpty || (!power.isEmpty && power.all Char.isDigit))
    if isNumber then some (signed (.ofFloat (Number.ofDecimal cs))) else none

/-- A value as a real number. -/
def toFloat (args : List Value) : Eval Value := do
  let m ← Eval.memory
  match args with
  | [] => pure (.float ⟨0⟩)
  | [.text s] =>
    match floatOfText? s with
    | some x => pure (.float x)
    | none => Eval.error "ValueError" s!"could not convert string to float: {m.shown (.text s)}"
  | [v] =>
    if v.isNumber then do
      let x ← Operator.real v
      pure (.float (.ofFloat x))
    else
      Eval.typeError s!"float() argument must be a string or a real number, not '{m.shownType v}'"
  | args => Eval.typeError s!"float expected at most 1 argument, got {args.length}"

/-- The elements of the first argument, if there is one. -/
def firstElements (E : Engine) (env : Env) (args : List Value) : Eval (List Value) :=
  match args with
  | [] => pure []
  | v :: _ => E.elements env v

/-- The set of some values. -/
def toSet (isFrozen : Bool) (vs : List Value) : Eval Value := do
  for v in vs do Subscript.hashable v
  let m ← Eval.memory
  Eval.add (.set (vs.foldl m.insertElement []) isFrozen)

/-- A row of whole numbers. -/
def range (args : List Value) : Eval Value := do
  let m ← Eval.memory
  let ns := args.filterMap Value.int?
  let row (start stop step : Int) : Eval Value :=
    if step = 0 then Eval.error "ValueError" "range() arg 3 must not be zero"
    else
      let count : Nat :=
        if step > 0 then (if stop > start then ((stop - start - 1) / step + 1).toNat else 0)
        else if stop < start then ((start - stop - 1) / (-step) + 1).toNat else 0
      let numbers := (List.range count).map fun (i : Nat) => Value.int (start + step * (i : Int))
      Eval.add (.sequence "range" numbers)
  match args.find? fun v => v.int?.isNone with
  | some v => Eval.typeError s!"'{m.shownType v}' object cannot be interpreted as an integer"
  | none =>
    match ns with
    | [stop] => row 0 stop 1
    | [start, stop] => row start stop 1
    | [start, stop, step] => row start stop step
    | [] => Eval.typeError "range expected at least 1 argument, got 0"
    | _ => Eval.typeError s!"range expected at most 3 arguments, got {args.length}"

/-- Makes a value of a type of the language. -/
def construct (E : Engine) (env : Env) (typeName : String) (args : List Value)
    (keywords : Attributes) : Eval Value := do
  let m ← Eval.memory
  match typeName, args with
  | "str", [] => pure (.text "")
  | "str", [v] => do
    let s ← plainText E env v
    pure (.text s)
  | "str", .bytes bs :: rest => Method.call E env (.bytes bs) "decode" rest []
  | "int", args => toInt args
  | "float", args => toFloat args
  | "bool", args => pure (.bool ((args.head?.map m.isTrue).getD false))
  | "list", args => do
    let vs ← firstElements E env args
    Eval.add (.list vs)
  | "tuple", args => do
    let vs ← firstElements E env args
    Eval.add (.tuple vs)
  | "set", args => do
    let vs ← firstElements E env args
    toSet false vs
  | "frozenset", args => do
    let vs ← firstElements E env args
    toSet true vs
  | "dict", args => do
    let v ← Eval.add (.dict [])
    match v with
    | .ref address => do
      let _ ← Method.ofDict E env address [] "update" args keywords
      pure v
    | v => pure v
  | "bytes", [] => pure (.bytes [])
  | "bytes", [.text s, _] => pure (.bytes s.toUTF8.toList)
  | "bytes", [.text _] => Eval.typeError "string argument without an encoding"
  | "bytes", [.int n] => pure (.bytes (List.replicate n.toNat 0))
  | "bytes", [v] => do
    let vs ← E.elements env v
    pure (.bytes (vs.map fun v => (v.int?.getD 0).toNat.toUInt8))
  | "type", [v] => pure (m.typeOf v)
  | "type", [.text name, bases, attributes] => do
    let bases := (Subscript.elements? m bases).getD []
    let attributes := match m.object? attributes with
      | some (.dict es) => es.filterMap fun e => match e.1 with
        | .text s => some (s, e.2)
        | _ => none
      | _ => []
    Eval.add (.class { name, bases := bases.filter (· ≠ .type "object"), attributes })
  | "type", _ => Eval.typeError "type() takes 1 or 3 arguments"
  | "object", [] => Eval.add (.plain "object")
  | "object", _ => Eval.typeError "object() takes no arguments"
  | "range", args => range args
  | "slice", [stop] => Eval.add (.slice .none stop .none)
  | "slice", [start, stop] => Eval.add (.slice start stop .none)
  | "slice", [start, stop, step] => Eval.add (.slice start stop step)
  | "enumerate", v :: rest => do
    let vs ← E.elements env v
    let start := ((rest.head? <|> keywords.get? "start").bind Value.int?).getD 0
    let items ← Eval.each (fun p => Eval.add (.tuple [.int (start + p.2), p.1])) vs.zipIdx
    Eval.add (.sequence "enumerate" items)
  | "zip", args => do
    let rows ← Eval.each (E.elements env) args
    let size := (rows.map List.length).min?.getD 0
    let items ← Eval.each (fun i => Eval.add (.tuple (rows.filterMap (·[i]?)))) (List.range size)
    Eval.add (.sequence "zip" items)
  | "map", f :: args => do
    let rows ← Eval.each (E.elements env) args
    let size := (rows.map List.length).min?.getD 0
    let items ← Eval.each (fun i => E.call env f (rows.filterMap (·[i]?)) []) (List.range size)
    Eval.add (.sequence "map" items)
  | "filter", [f, v] => do
    let vs ← E.elements env v
    let marked ← Eval.each (fun v => do
      let r ← if f = .none then pure v else E.call env f [v] []
      let m ← Eval.memory
      pure (v, m.isTrue r)) vs
    Eval.add (.sequence "filter" ((marked.filter Prod.snd).map Prod.fst))
  | "reversed", [v] => do
    let vs ← E.elements env v
    Eval.add (.sequence "reversed" vs.reverse)
  | "SimpleNamespace", [] => Eval.add (.namespace keywords)
  | name, args =>
    if args.isEmpty then Eval.typeError s!"cannot create '{Memory.fullTypeName name}' instances"
    else Eval.typeError s!"{name}() got unexpected arguments ({args.length} given)"

/-- The largest or the smallest value. -/
def extreme (E : Engine) (env : Env) (name : String) (op : CmpOp) (args : List Value)
    (keywords : Attributes) : Eval Value := do
  let vs ← match args with
    | [v] => E.elements env v
    | args => pure args
  let keyOf (v : Value) : Eval Value := match keywords.get? "key" with
    | none | some .none => pure v
    | some f => E.call env f [v] []
  match vs, keywords.get? "default" with
  | [], some v => pure v
  | [], none => Eval.error "ValueError" s!"{name}() arg is an empty sequence"
  | v :: vs, _ => do
    let mut best := v
    let mut bestKey ← keyOf v
    for w in vs do
      let key ← keyOf w
      let isBetter ← Comparison.ordered op key bestKey
      if isBetter then
        best := w
        bestKey := key
    pure best

/-- The sum of values. -/
def sum (vs : List Value) (start : Value) : Eval Value := do
  let mut total := start
  for v in vs do
    total ← Operator.binary .add "+" total v
  pure total

/-- Rounds a number. -/
def round (args : List Value) : Eval Value := do
  let m ← Eval.memory
  match args with
  | [.float x] =>
    if !x.isFinite then toInt [.float x]
    else
      let (n, d) := Format.fraction x
      let n : Int := Format.roundQuotient n d
      pure (.int (if x.isNegative then -n else n))
  | [.float x, .int places] =>
    let text := Format.fixed {} ⟨x.bits &&& 0x7FFFFFFFFFFFFFFF⟩ places.toNat
    let rounded := Number.ofDecimal text.toList
    pure (.float (.ofFloat (if x.isNegative then -rounded else rounded)))
  | v :: _ =>
    match v.int? with
    | some n => pure (.int n)
    | none => Eval.typeError s!"type {m.shownType v} doesn't define __round__ method"
  | [] => Eval.typeError "round() missing required argument 'number' (pos 1)"

/-- The value of a name that is given as a text. -/
def attributeName (v : Value) : Eval String :=
  match v with
  | .text s => pure s
  | v => do
    let m ← Eval.memory
    Eval.typeError s!"attribute name must be string, not '{m.shownType v}'"

/-- Refuses arguments of a function that takes a fixed number of them. -/
def refuse {α : Type} (name : String) (args : List Value) : Eval α :=
  let given := args.length
  if ["getattr", "isinstance", "issubclass", "hasattr", "setattr", "delattr"].contains name then
    if name = "getattr" then
      if given < 2 then Eval.typeError s!"getattr expected at least 2 arguments, got {given}"
      else Eval.typeError s!"getattr expected at most 3 arguments, got {given}"
    else
      let count := if name = "setattr" then 3 else 2
      Eval.typeError s!"{name} expected {count} arguments, got {given}"
  else if ["globals", "locals"].contains name then
    Eval.typeError s!"{name}() takes no arguments ({given} given)"
  else Eval.typeError s!"{name}() takes exactly one argument ({given} given)"

/-- The keys of a mapping of names, sorted. A key that is no name has to be compared with those
that are, and that fails. -/
def sortedKeys (E : Engine) (env : Env) (names : Nat) : Eval (List Value) := do
  let m ← Eval.memory
  match m.get? names with
  | some (.dict entries) => Method.sorted E env (entries.map Prod.fst) []
  | _ => pure []

/-- Calls a function of the language. -/
def call (E : Engine) (env : Env) (name : String) (args : List Value) (keywords : Attributes) :
    Eval Value := do
  let m ← Eval.memory
  match name, args with
  | "len", [v] => length E env v
  | "repr", [v] => do
    let s ← literalText E env v
    pure (.text s)
  | "ascii", [v] => pure (.text (m.shown v))
  | "getattr", [v, n] => do
    let n ← attributeName n
    Attribute.get v n
  | "getattr", [v, n, default] => do
    let n ← attributeName n
    let found ← Attribute.get? v n
    pure (found.getD default)
  | "hasattr", [v, n] => do
    let n ← attributeName n
    let found ← Attribute.get? v n
    pure (.bool found.isSome)
  | "setattr", [v, n, w] => do
    let n ← attributeName n
    Attribute.set v n w
    pure .none
  | "delattr", [v, n] => do
    let n ← attributeName n
    Attribute.delete v n
    pure .none
  | "dir", [] => do
    let keys ← match env.classNames, env.site.scopes with
      | some names, _ => sortedKeys E env names
      | none, [] => sortedKeys E env env.site.globals
      | none, s :: _ =>
        let names : List String := match m.get? s with
          | some (.scope names) => names.filterMap fun e => e.2.map fun _ => e.1
          | _ => []
        pure ((names.mergeSort fun a b => decide (a ≤ b)).map Value.text)
    Eval.add (.list keys)
  | "dir", [v] => do
    let keys ← match m.object? v with
      | some (.module names) => sortedKeys E env names
      | _ => pure ((Attribute.names m v).map Value.text)
    Eval.add (.list keys)
  | "globals", [] => pure (.ref env.site.globals)
  | "locals", [] => Name.localsOf env
  | "vars", [] => Name.localsOf env
  | "vars", [v] => do
    match ← Attribute.get? v "__dict__" with
    | some d => pure d
    | none => Eval.typeError "vars() argument must have __dict__ attribute"
  | "isinstance", [v, c] => do
    let result ← isInstance (m.isOf v)
      "isinstance() arg 2 must be a type, a tuple of types, or a union" c
    pure (.bool result)
  | "issubclass", [v, c] =>
    if m.isClass v then do
      let result ← isInstance (m.isBelow v)
        "issubclass() arg 2 must be a class, a tuple of classes, or a union" c
      pure (.bool result)
    else Eval.typeError "issubclass() arg 1 must be a class"
  | "callable", [v] =>
    let isCallable := m.isClass v || (match v, m.object? v with
      | .builtin _, _ | .hostFunction _ _, _ => true
      | _, some (.function _) | _, some (.tool _ _ _) | _, some (.method _ _)
      | _, some (.builtinMethod _ _) => true
      | _, some (.instance c _) =>
        (Attribute.inClasses m (m.lineage c) "__call__").isSome
      | _, _ => false)
    pure (.bool isCallable)
  | "print", _ => pure .none
  | "abs", [v] =>
    match v, v.int? with
    | .float x, _ => pure (.float ⟨x.bits &&& 0x7FFFFFFFFFFFFFFF⟩)
    | _, some n => pure (.int n.natAbs)
    | _, none => Eval.typeError s!"bad operand type for abs(): '{m.shownType v}'"
  | "all", [v] => do
    let vs ← E.elements env v
    let m ← Eval.memory
    pure (.bool (vs.all m.isTrue))
  | "any", [v] => do
    let vs ← E.elements env v
    let m ← Eval.memory
    pure (.bool (vs.any m.isTrue))
  | "sum", v :: rest => do
    let vs ← E.elements env v
    sum vs ((rest.head? <|> keywords.get? "start").getD (.int 0))
  | "min", args => extreme E env "min" .lt args keywords
  | "max", args => extreme E env "max" .gt args keywords
  | "sorted", [v] => do
    let vs ← E.elements env v
    let vs ← Method.sorted E env vs keywords
    Eval.add (.list vs)
  | "round", args => round args
  | "divmod", [a, b] => do
    let q ← Operator.binary .floorDiv "divmod()" a b
    let r ← Operator.binary .mod "divmod()" a b
    Eval.add (.tuple [q, r])
  | "pow", [a, b] => Operator.binary .pow "** or pow()" a b
  | "chr", [.int n] => pure (.text (String.singleton (Char.ofNat n.toNat)))
  | "ord", [.text s] =>
    match s.toList with
    | [c] => pure (.int c.toNat)
    | cs =>
      Eval.typeError s!"ord() expected a character, but string of length {cs.length} found"
  | "hex", [.int n] => pure (.text (Format.whole { isAlternate := true
                                                   notation_ := some 'x' } n |>.getD ""))
  | "bin", [.int n] => pure (.text (Format.whole { isAlternate := true
                                                   notation_ := some 'b' } n |>.getD ""))
  | "oct", [.int n] => pure (.text (Format.whole { isAlternate := true
                                                   notation_ := some 'o' } n |>.getD ""))
  | "format", [v] => do
    let s ← plainText E env v
    pure (.text s)
  | "format", [v, .text spec] => do
    let s ← Format.ofValue v spec
    pure (.text s)
  | "hash", [v] => do
    Subscript.hashable v
    pure (.int (v.int?.getD 0))
  | "id", [.ref address] => pure (.int address)
  | "iter", [v] => do
    let vs ← E.elements env v
    Eval.add (.sequence "iterator" vs)
  | "next", v :: rest =>
    match v, m.object? v, rest with
    | .ref address, some (.sequence name (x :: xs)), _ => do
      Eval.put address (.sequence name xs)
      pure x
    | _, some (.sequence _ []), [default] => pure default
    | _, some (.sequence _ []), _ => Eval.raiseWith "StopIteration" []
    | v, _, _ => Eval.typeError s!"'{m.shownType v}' object is not an iterator"
  | "__import__", .text module :: _ =>
    if ["json", "os"].contains module then pure (.hostModule module)
    else Eval.error "ModuleNotFoundError" s!"No module named '{module}'"
  | name, args =>
    match name.splitOn "." with
    | [typeName, method] =>
      match args with
      | v :: rest =>
        if m.isOf v (.type typeName) then Method.call E env v method rest keywords
        else Eval.typeError (s!"descriptor '{method}' for '{typeName}' objects doesn't apply to a "
          ++ s!"'{m.shownType v}' object")
      | [] => Eval.typeError s!"unbound method {typeName}.{method}() needs an argument"
    | _ => refuse name args

/-! ## Modules of the host -/

/-- Host data whose members are in the order of their names. -/
def sortMembers (d : Data) : Data :=
  match d with
  | .dict es =>
    .dict (es.mergeSort fun a b => decide (a.1.plain ≤ b.1.plain))
  | d => d

/-- Calls a function of a module of the host. -/
def callHost (module name : String) (args : List Value) (keywords : Attributes) : Eval Value := do
  let m ← Eval.memory
  match module, name, args with
  | "json", "dumps", [v] =>
    match m.toData v with
    | .error typeName =>
      Eval.typeError s!"Object of type {typeName} is not JSON serializable"
    | .ok d =>
      let d := if ((keywords.get? "sort_keys").map m.isTrue).getD false then sortMembers d else d
      match Json.write .spaced d with
      | .ok s => pure (.text s)
      | .error obstacle => Eval.fail (.unwritable obstacle)
  | "json", "loads", [.text s] =>
    match Json.read s with
    | .ok d => Eval.addData d
    | .error rejection => Eval.fail (.unreadable s rejection)
  | _, name, [] => Eval.typeError s!"{name}() missing 1 required positional argument: 'obj'"
  | _, name, _ => Eval.error "RuntimeError" s!"{name}() is not available"

end Builtin

end SourceLoader
