import SourceLoader.Body.Call
import SourceLoader.Object.Compare
import SourceLoader.Object.Format
import SourceLoader.Object.TextMethod
import SourceLoader.Text.Encoding

/-!
# Methods of values of the language

What `append`, `update`, `join` and their like do.
-/

namespace SourceLoader

namespace Method

/-- Refuses a number of arguments. -/
def wrongCount {α : Type} (name : String) (expected given : Nat) : Eval α :=
  if expected = 0 then Eval.typeError s!"{name}() takes no arguments ({given} given)"
  else if expected = 1 then
    Eval.typeError s!"{name}() takes exactly one argument ({given} given)"
  else Eval.typeError s!"{name} expected {expected} arguments, got {given}"

/-- Inserts a value into a sorted list, behind those that do not come after it. -/
def insertSorted (x : Value × Value) : List (Value × Value) → Eval (List (Value × Value))
  | [] => pure [x]
  | y :: ys => do
    let isBefore ← Comparison.ordered .lt x.1 y.1
    if isBefore then pure (x :: y :: ys)
    else do
      let rest ← insertSorted x ys
      pure (y :: rest)

/-- Sorts values by their keys; the order of values with equal keys stays. -/
def sortPairs : List (Value × Value) → List (Value × Value) → Eval (List (Value × Value))
  | [], sorted => pure sorted
  | x :: xs, sorted => do
    let sorted ← insertSorted x sorted
    sortPairs xs sorted

/-- Sorts values, by the results of a function if there is one. -/
def sorted (E : Engine) (env : Env) (vs : List Value) (keywords : Attributes) :
    Eval (List Value) := do
  let m ← Eval.memory
  let keyed ← match keywords.get? "key" with
    | none | some .none => pure (vs.map fun v => (v, v))
    | some f => Eval.each (fun v => do
        let key ← E.call env f [v] []
        pure (key, v)) vs
  let isReversed := ((keywords.get? "reverse").map m.isTrue).getD false
  if isReversed then do
    let pairs ← sortPairs keyed.reverse []
    pure (pairs.map Prod.snd).reverse
  else do
    let pairs ← sortPairs keyed []
    pure (pairs.map Prod.snd)

/-- Refuses a value that cannot be an element of a set or a key. -/
def hashable (v : Value) : Eval Unit := Subscript.hashable v

/-- Calls a method of a list. -/
def ofList (E : Engine) (env : Env) (address : Nat) (xs : List Value) (name : String)
    (args : List Value) (keywords : Attributes) : Eval (Option Value) := do
  let m ← Eval.memory
  let set (xs : List Value) : Eval (Option Value) := do
    Eval.put address (.list xs)
    pure (some .none)
  match name, args with
  | "append", [v] => set (xs ++ [v])
  | "append", args => wrongCount "list.append" 1 args.length
  | "extend", [v] =>
    let more ← E.elements env v
    set (xs ++ more)
  | "extend", args => wrongCount "list.extend" 1 args.length
  | "insert", [i, v] =>
    let n := i.int?.getD 0
    let n := if n < 0 then max (n + xs.length) 0 else min n xs.length
    set (xs.take n.toNat ++ v :: xs.drop n.toNat)
  | "pop", args =>
    let index := (args.head?.bind Value.int?).getD (-1)
    if xs.isEmpty then Eval.error "IndexError" "pop from empty list"
    else
      match Subscript.place? xs.length index with
      | none => Eval.error "IndexError" "pop index out of range"
      | some p =>
        let _ ← set (xs.eraseIdx p)
        pure xs[p]?
  | "remove", [v] =>
    match xs.findIdx? fun x => x = v || m.same x v with
    | some p => set (xs.eraseIdx p)
    | none => Eval.error "ValueError" "list.remove(x): x not in list"
  | "index", v :: _ =>
    match xs.findIdx? fun x => x = v || m.same x v with
    | some p => pure (some (.int p))
    | none => Eval.error "ValueError" s!"{m.shown v} is not in list"
  | "count", [v] => pure (some (.int (xs.filter fun x => x = v || m.same x v).length))
  | "reverse", [] => set xs.reverse
  | "clear", [] => set []
  | "copy", [] => return some (← Eval.add (.list xs))
  | "sort", [] =>
    let ys ← sorted E env xs keywords
    set ys
  | _, _ => pure none

/-- Calls a method of a tuple. -/
def ofTuple (xs : List Value) (name : String) (args : List Value) : Eval (Option Value) := do
  let m ← Eval.memory
  match name, args with
  | "count", [v] => pure (some (.int (xs.filter fun x => x = v || m.same x v).length))
  | "index", v :: _ =>
    match xs.findIdx? fun x => x = v || m.same x v with
    | some p => pure (some (.int p))
    | none => Eval.error "ValueError" "tuple.index(x): x not in tuple"
  | _, _ => pure none

/-- The entries that a value brings into a mapping. -/
def entriesOf (E : Engine) (env : Env) (v : Value) : Eval (List (Value × Value)) := do
  let m ← Eval.memory
  match m.object? v with
  | some (.dict es) => pure es
  | _ =>
    let items ← E.elements env v
    let pair (p : Value × Nat) : Eval (Value × Value) := do
      let m ← Eval.memory
      match Subscript.elements? m p.1 with
      | some [k, v] => pure (k, v)
      | some vs =>
        Eval.error "ValueError" (s!"dictionary update sequence element #{p.2} has length "
          ++ s!"{vs.length}; 2 is required")
      | none =>
        Eval.typeError s!"cannot convert dictionary update sequence element #{p.2} to a sequence"
    Eval.each pair items.zipIdx

/-- Puts entries into a mapping. -/
def update (address : Nat) (new : List (Value × Value)) : Eval Unit := do
  for e in new do
    hashable e.1
    Eval.modifyMemory fun m =>
      match m.get? address with
      | some (.dict es) => m.put address (.dict (m.insertEntry e.1 e.2 es))
      | _ => m

/-- Calls a method of a mapping. -/
def ofDict (E : Engine) (env : Env) (address : Nat) (es : List (Value × Value)) (name : String)
    (args : List Value) (keywords : Attributes) : Eval (Option Value) := do
  let m ← Eval.memory
  let found (k : Value) : Eval (Option Value) := do
    hashable k
    pure (m.entry? es k)
  match name, args with
  | "get", [k] => return some ((← found k).getD .none)
  | "get", [k, v] => return some ((← found k).getD v)
  | "keys", [] => return some (← Eval.add (.sequence "dict_keys" (es.map Prod.fst)))
  | "values", [] => return some (← Eval.add (.sequence "dict_values" (es.map Prod.snd)))
  | "items", [] =>
    let items ← Eval.each (fun e => Eval.add (.tuple [e.1, e.2])) es
    return some (← Eval.add (.sequence "dict_items" items))
  | "update", args =>
    if args.length > 1 then
      Eval.typeError s!"update expected at most 1 argument, got {args.length}"
    else
      let given ← match args with
        | [v] => entriesOf E env v
        | _ => pure []
      update address (given ++ keywords.map fun a => (.text a.1, a.2))
      return some .none
  | "pop", k :: rest =>
    match ← found k, rest with
    | some v, _ =>
      Eval.put address (.dict (m.eraseEntry k es))
      return some v
    | none, [v] => return some v
    | none, _ => Eval.raiseWith "KeyError" [k]
  | "setdefault", k :: rest =>
    match ← found k with
    | some v => return some v
    | none =>
      let v := rest.headD .none
      update address [(k, v)]
      return some v
  | "popitem", [] =>
    match es.getLast? with
    | some e =>
      Eval.put address (.dict es.dropLast)
      return some (← Eval.add (.tuple [e.1, e.2]))
    | none => Eval.error "KeyError" "popitem(): dictionary is empty"
  | "clear", [] =>
    Eval.put address (.dict [])
    return some .none
  | "copy", [] => return some (← Eval.add (.dict es))
  | _, _ => return none

/-- Calls a method of a set. -/
def ofSet (E : Engine) (env : Env) (address : Nat) (xs : List Value) (isFrozen : Bool)
    (name : String) (args : List Value) : Eval (Option Value) := do
  let m ← Eval.memory
  let set (xs : List Value) : Eval (Option Value) := do
    Eval.put address (.set xs isFrozen)
    pure (some .none)
  let without (v : Value) : List Value := xs.filter fun x => !(x = v || m.same x v)
  let combine (op : BinOp) : Eval (List Value) := do
    let mut result := xs
    for a in args do
      let ys ← E.elements env a
      result := (Operator.onSets m op result ys).getD result
    pure result
  let fresh (xs : List Value) : Eval (Option Value) := do
    return some (← Eval.add (.set xs isFrozen))
  match name, args with
  | "add", [v] =>
    hashable v
    set (m.insertElement xs v)
  | "discard", [v] =>
    hashable v
    set (without v)
  | "remove", [v] =>
    hashable v
    if m.isAmong v xs then set (without v) else Eval.raiseWith "KeyError" [v]
  | "pop", [] =>
    match xs with
    | x :: rest =>
      let _ ← set rest
      return some x
    | [] => Eval.error "KeyError" "pop from an empty set"
  | "clear", [] => set []
  | "copy", [] => fresh xs
  | "update", _ =>
    let ys ← combine .bitOr
    set ys
  | "union", _ =>
    let ys ← combine .bitOr
    fresh ys
  | "intersection", _ =>
    let ys ← combine .bitAnd
    fresh ys
  | "difference", _ =>
    let ys ← combine .sub
    fresh ys
  | "symmetric_difference", _ =>
    let ys ← combine .bitXor
    fresh ys
  | "issubset", [v] =>
    let ys ← E.elements env v
    pure (some (.bool (xs.all (m.isAmong · ys))))
  | "issuperset", [v] =>
    let ys ← E.elements env v
    pure (some (.bool (ys.all (m.isAmong · xs))))
  | "isdisjoint", [v] =>
    let ys ← E.elements env v
    pure (some (.bool (!ys.any (m.isAmong · xs))))
  | _, _ => pure none

/-- Calls a method of bytes. -/
def ofBytes (bs : List UInt8) (name : String) (args : List Value) : Eval (Option Value) :=
  match name, args with
  | "hex", [] => pure (some (.text (String.join (bs.map fun b => Text.hex 2 b.toNat))))
  | "decode", args => do
    let encoding := match args with
      | .text s :: _ => (Encoding.ofName? s).getD .utf8
      | _ => .utf8
    match encoding.decode bs with
    | .ok cs => pure (some (.text (String.ofList cs)))
    | .error fault => Eval.fail (.undecodable fault)
  | _, _ => pure none

/-- Calls a method of an error object. -/
def ofProblem (address : Nat) (p : Problem) (name : String) (args : List Value) :
    Eval (Option Value) :=
  match name, args with
  | "add_note", [.text s] => do
    Eval.put address (.problem { p with notes := p.notes ++ [s] })
    pure (some .none)
  | "with_traceback", [_] => pure (some (.ref address))
  | _, _ => pure none

/-- Calls a method. -/
def call (E : Engine) (env : Env) (receiver : Value) (name : String) (args : List Value)
    (keywords : Attributes) : Eval Value := do
  let m ← Eval.memory
  let result ← match receiver, m.object? receiver with
    | .text s, _ =>
      match name, args with
      | "join", [v] =>
        match Subscript.elements? m v with
        | some vs => return ← TextMethod.joined s vs
        | none => do
          let isIterable := match m.object? v with
            | some (.generator _ _) => true
            | _ => false
          if isIterable then do
            let vs ← E.elements env v
            return ← TextMethod.joined s vs
          else Eval.typeError "can only join an iterable"
      | "join", args => wrongCount "str.join" 1 args.length
      | _, _ => TextMethod.call s name args
    | .bytes bs, _ => ofBytes bs name args
    | .int n, _ =>
      pure (if name = "bit_length" then
        some (.int (if n = 0 then 0 else n.natAbs.log2 + 1)) else none)
    | .float x, _ =>
      pure (if name = "is_integer" then some (.bool x.whole?.isSome) else none)
    | .ref address, some (.list xs) => ofList E env address xs name args keywords
    | .ref address, some (.dict es) => ofDict E env address es name args keywords
    | .ref address, some (.set xs isFrozen) => ofSet E env address xs isFrozen name args
    | .ref address, some (.problem p) => ofProblem address p name args
    | _, some (.tuple xs) => ofTuple xs name args
    | _, _ => pure none
  match result with
  | some v => pure v
  | none =>
    match name, args with
    | "__str__", [] => pure (.text (m.plain receiver))
    | "__repr__", [] => pure (.text (m.shown receiver))
    | "__eq__", [v] => pure (.bool (m.same receiver v))
    | "__ne__", [v] => pure (.bool (!m.same receiver v))
    | _, args =>
      Eval.typeError s!"{m.shownType receiver}.{name}() got unexpected arguments ({args.length} given)"

end Method

end SourceLoader
