import CloudSpend.Data.Arithmetic
import CloudSpend.Text.Search

/-! # Parts of values -/

namespace CloudSpend.Value

def getD (v : Value) (key : String) (default : Value) : Result Value :=
  match v with
  | .object es => .ok ((Entries.get? es key).getD default)
  | v => .error (.noAttribute v.kind "get")

def get (v : Value) (key : String) : Result Value := v.getD key .null

def field (v : Value) (key : String) : Result Value :=
  match v with
  | .object es => match Entries.get? es key with
    | some w => .ok w
    | none => .error (.missingKey key)
  | .text _ => .error (.textIndex .text)
  | .list _ => .error (.listIndex .text)
  | v => .error (.notSubscriptable v.kind)

def item (v : Value) (n : Int) : Result Value :=
  let place (size : Nat) : Option Nat :=
    if 0 ≤ n then some n.toNat else if -n ≤ size then some (size - (-n).toNat) else none
  match v with
  | .list xs => match (place xs.length).bind (xs[·]?) with
    | some x => .ok x
    | none => .error .outsideList
  | .text s =>
    let cs := s.toList
    match (place cs.length).bind (cs[·]?) with
    | some c => .ok (.text (String.singleton c))
    | none => .error .outsideText
  | .object _ => .error (.missingEntry (toString n))
  | v => .error (.notSubscriptable v.kind)

def take (v : Value) (n : Nat) : Result Value :=
  match v with
  | .list xs => .ok (.list (xs.take n))
  | .text s => .ok (.text (String.ofList (s.toList.take n)))
  | .object _ => .error .rangeOfTable
  | v => .error (.notSubscriptable v.kind)

def items (v : Value) : Result (List Value) :=
  match v with
  | .list xs => .ok xs
  | .text s => .ok (s.toList.map fun c => .text (String.singleton c))
  | .object es => .ok (es.map fun e => .text e.1)
  | v => .error (.notIterable v.kind)

def entries (v : Value) : Result Row :=
  match v with
  | .object es => .ok es
  | v => .error (.noAttribute v.kind "items")

def values (v : Value) : Result (List Value) :=
  match v with
  | .object es => .ok (es.map (·.2))
  | v => .error (.noAttribute v.kind "values")

def size (v : Value) : Result Nat :=
  match v with
  | .list xs => .ok xs.length
  | .text s => .ok s.length
  | .object es => .ok es.length
  | v => .error (.noLength v.kind)

def contains (v item : Value) : Result Bool :=
  match v with
  | .list xs => .ok (xs.any fun x => x.same item)
  | .object es => match item with
    | .text s => .ok (Entries.has es s)
    | .list _ => .error (.unhashable .list)
    | .object _ => .error (.unhashable .object)
    | _ => .ok false
  | .text s => match item with
    | .text p => .ok (Text.occurs p s)
    | i => .error (.wrongKind ("'in <string>' requires string as left operand, not " ++ i.kind.name))
  | v => .error (.notContainer v.kind)

def expectText (v : Value) (name : String) : Result String :=
  match v with
  | .text s => .ok s
  | v => .error (.noAttribute v.kind name)

def asKey (v : Value) : Result Value :=
  match v with
  | .list _ => .error (.unhashable .list)
  | .object _ => .error (.unhashable .object)
  | v => .ok v

def keyText (v : Value) : Result String :=
  match v with
  | .null => .ok "$none"
  | .list _ => .error (.unhashable .list)
  | .object _ => .error (.unhashable .object)
  | v => .ok v.display

end CloudSpend.Value
