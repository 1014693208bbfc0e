import SourceLoader.Object.Eval

/-!
# Elements

Reading, setting and deleting what stands under an index, a key or within a slice. An index may
count from the end. A slice is first brought into the bounds of the sequence and then names the
places that it takes.
-/

namespace SourceLoader

namespace Subscript

/-- The place that an index stands for in a sequence of some length. -/
def place? (length : Nat) (index : Int) : Option Nat :=
  let n := if index < 0 then index + length else index
  if 0 ≤ n && n < length then some n.toNat else none

/-- A bound of a slice. -/
def bound (v : Value) : Eval (Option Int) :=
  match v, v.int? with
  | .none, _ => pure none
  | _, some n => pure (some n)
  | _, none =>
    Eval.typeError "slice indices must be integers or None or have an __index__ method"

/-- The places that a slice takes, in order. -/
def places (length : Nat) (lower upper : Option Int) (step : Int) : List Nat :=
  let size : Int := length
  let least : Int := if step < 0 then -1 else 0
  let most : Int := if step < 0 then size - 1 else size
  let clamp (n : Int) : Int :=
    if n < 0 then max (n + size) least else min n most
  let start := (lower.map clamp).getD (if step < 0 then most else least)
  let stop := (upper.map clamp).getD (if step < 0 then least else most)
  let count : Nat :=
    if step > 0 then (if stop > start then ((stop - start - 1) / step + 1).toNat else 0)
    else if stop < start then ((start - stop - 1) / (-step) + 1).toNat else 0
  (List.range count).map fun (i : Nat) => (start + step * (i : Int)).toNat

/-- The places that a slice object takes in a sequence. -/
def placesOf (length : Nat) (lower upper step : Value) : Eval (List Nat) := do
  let step ← bound step
  if step = some 0 then Eval.error "ValueError" "slice step cannot be zero"
  else do
    let lower ← bound lower
    let upper ← bound upper
    pure (places length lower upper (step.getD 1))

/-- The elements at some places. -/
def pick {α : Type} (xs : List α) (ps : List Nat) : List α := ps.filterMap fun p => xs[p]?

/-- The element of a sequence of some kind at an index. -/
def element {α : Type} (kind : String) (xs : List α) (n : Int) : Eval α :=
  match (place? xs.length n).bind (xs[·]?) with
  | some x => pure x
  | none =>
    if kind = "byte" then Eval.error "IndexError" "index out of range"
    else Eval.error "IndexError" s!"{kind} index out of range"

/-- Fails because a value is no index. -/
def noIndex {α : Type} (kind : String) (index : Value) : Eval α := do
  let m ← Eval.memory
  if kind = "string" then
    Eval.typeError s!"string indices must be integers, not '{m.shownType index}'"
  else if kind = "byte" then
    Eval.typeError s!"byte indices must be integers or slices, not {m.shownType index}"
  else Eval.typeError s!"{kind} indices must be integers or slices, not {m.shownType index}"

/-- An element or a part of a sequence. -/
def ofSequence {α : Type} (kind : String) (xs : List α) (index : Value) (one : α → Value)
    (many : List α → Eval Value) : Eval Value := do
  let m ← Eval.memory
  match index.int?, m.object? index with
  | some n, _ => return one (← element kind xs n)
  | none, some (.slice lower upper step) =>
    let ps ← placesOf xs.length lower upper step
    many (pick xs ps)
  | none, _ => noIndex kind index

/-- Refuses a value that cannot be a key. -/
def hashable (v : Value) : Eval Unit := do
  let m ← Eval.memory
  match m.unhashable? v with
  | some kind => Eval.typeError s!"unhashable type: '{kind}'"
  | none => pure ()

/-- Reads what stands under an index or a key. -/
def get (v index : Value) : Eval Value := do
  let m ← Eval.memory
  match v with
  | .text s =>
    ofSequence "string" s.toList index (fun c => .text (String.singleton c))
      fun cs => pure (.text (String.ofList cs))
  | .bytes bs =>
    ofSequence "byte" bs index (fun b => .int b.toNat) fun bs => pure (.bytes bs)
  | v =>
    match m.object? v with
    | some (.list xs) => ofSequence "list" xs index id fun xs => Eval.add (.list xs)
    | some (.tuple xs) => ofSequence "tuple" xs index id fun xs => Eval.add (.tuple xs)
    | some (.dict es) =>
      hashable index
      match m.entry? es index with
      | some found => pure found
      | none => Eval.raiseWith "KeyError" [index]
    | some (.sequence "range" xs) =>
      ofSequence "range object" xs index id fun xs => Eval.add (.sequence "range" xs)
    | _ =>
      match v with
      | .type "type" | .type "list" | .type "dict" | .type "tuple" | .type "set" =>
        Eval.add (.plain "GenericAlias")
      | v =>
        if m.isClass v then Eval.typeError s!"type '{m.className v}' is not subscriptable"
        else Eval.typeError s!"'{m.shownType v}' object is not subscriptable"

/-- A list whose elements within a slice of step one are replaced by others. -/
def splice (xs : List Value) (start count : Nat) (new : List Value) : List Value :=
  xs.take start ++ new ++ xs.drop (start + count)

/-- Sets the parts of a list that a slice takes. -/
def setSlice (address : Nat) (xs : List Value) (lower upper step : Value) (new : List Value) :
    Eval Unit := do
  let ps ← placesOf xs.length lower upper step
  let step ← bound step
  if step.getD 1 = 1 then do
    let lower ← bound lower
    let start := match ps, lower with
      | p :: _, _ => p
      | [], none => 0
      | [], some n => (if n < 0 then max (n + xs.length) 0 else min n xs.length).toNat
    Eval.put address (.list (splice xs start ps.length new))
  else if ps.length = new.length then
    Eval.put address (.list ((ps.zip new).foldl (fun xs p => xs.set p.1 p.2) xs))
  else
    Eval.error "ValueError" (s!"attempt to assign sequence of size {new.length} "
      ++ s!"to extended slice of size {ps.length}")

/-- Sets what stands under an index or a key. A part of a list is set to the elements that
`elements` finds in the value. -/
def set (elements : Value → Eval (List Value)) (v index value : Value) : Eval Unit := do
  let m ← Eval.memory
  match v, m.object? v with
  | .ref address, some (.list xs) =>
    match index.int?, m.object? index with
    | some n, _ =>
      match place? xs.length n with
      | some p => Eval.put address (.list (xs.set p value))
      | none => Eval.error "IndexError" "list assignment index out of range"
    | none, some (.slice lower upper step) =>
      let new ← elements value
      setSlice address xs lower upper step new
    | none, _ => noIndex "list" index
  | .ref address, some (.dict es) =>
    hashable index
    Eval.put address (.dict (m.insertEntry index value es))
  | v, _ => Eval.typeError s!"'{m.shownType v}' object does not support item assignment"

/-- Deletes what stands under an index or a key. -/
def delete (v index : Value) : Eval Unit := do
  let m ← Eval.memory
  match v, m.object? v with
  | .ref address, some (.list xs) =>
    match index.int?, m.object? index with
    | some n, _ =>
      match place? xs.length n with
      | some p => Eval.put address (.list (xs.eraseIdx p))
      | none => Eval.error "IndexError" "list assignment index out of range"
    | none, some (.slice lower upper step) =>
      let ps ← placesOf xs.length lower upper step
      let kept := (List.range xs.length).filter (!ps.contains ·)
      Eval.put address (.list (pick xs kept))
    | none, _ => noIndex "list" index
  | .ref address, some (.dict es) =>
    hashable index
    if (m.entry? es index).isSome then Eval.put address (.dict (m.eraseEntry index es))
    else Eval.raiseWith "KeyError" [index]
  | v, _ => Eval.typeError s!"'{m.shownType v}' object doesn't support item deletion"

/-- The elements that a value goes through, if that does not take running a module. -/
def elements? (m : Memory) (v : Value) : Option (List Value) :=
  match v with
  | .text s => some (s.toList.map fun c => .text (String.singleton c))
  | .bytes bs => some (bs.map fun b => .int b.toNat)
  | v =>
    match m.object? v with
    | some (.list xs) | some (.tuple xs) | some (.set xs _) | some (.sequence _ xs) => some xs
    | some (.dict es) => some (es.map Prod.fst)
    | _ => none

end Subscript

end SourceLoader
