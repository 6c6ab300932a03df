import CloudSpend.Data.Fault
import CloudSpend.Numeral.Reading

/-! # Arithmetic and rankings -/

namespace CloudSpend

namespace Value

def intToFloat (n : Int) : Result Float :=
  match Numeral.ofInt? n with
  | some x => .ok x
  | none => .error .intTooLarge

inductive Pair where
  | ints (m n : Int)
  | floats (x y : Float)

def pair? : Value → Value → Option (Result Pair)
  | .float x, .float y => some (.ok (.floats x y))
  | .float x, w => w.int?.map fun n => (intToFloat n).map fun y => .floats x y
  | v, .float y => v.int?.map fun m => (intToFloat m).map fun x => .floats x y
  | v, w => match v.int?, w.int? with
    | some m, some n => some (.ok (.ints m n))
    | _, _ => none

def add (v w : Value) : Result Value :=
  match pair? v w with
  | some p => p.map fun
    | .ints m n => .int (m + n)
    | .floats x y => .float (x + y)
  | none => match v, w with
    | .text s, .text t => .ok (.text (s ++ t))
    | .list xs, .list ys => .ok (.list (xs ++ ys))
    | .text _, w => .error (.concatenate .text w.kind)
    | .list _, w => .error (.concatenate .list w.kind)
    | v, w => .error (.operands "+" v.kind w.kind)

def sub (v w : Value) : Result Value :=
  match pair? v w with
  | some p => p.map fun
    | .ints m n => .int (m - n)
    | .floats x y => .float (x - y)
  | none => .error (.operands "-" v.kind w.kind)

def repeatText (s : String) (n : Int) : Value :=
  .text (String.ofList (List.replicate n.toNat s.toList).flatten)

def repeatList (xs : List Value) (n : Int) : Value := .list (List.replicate n.toNat xs).flatten

def mul (v w : Value) : Result Value :=
  match pair? v w with
  | some p => p.map fun
    | .ints m n => .int (m * n)
    | .floats x y => .float (x * y)
  | none => match v, w with
    | .text s, w => match w.int? with
      | some n => .ok (repeatText s n)
      | none => .error (.repetition w.kind)
    | .list xs, w => match w.int? with
      | some n => .ok (repeatList xs n)
      | none => .error (.repetition w.kind)
    | v, .text s => match v.int? with
      | some n => .ok (repeatText s n)
      | none => .error (.repetition v.kind)
    | v, .list xs => match v.int? with
      | some n => .ok (repeatList xs n)
      | none => .error (.repetition v.kind)
    | v, w => .error (.operands "*" v.kind w.kind)

def div (v w : Value) : Result Value :=
  match pair? v w with
  | some (.ok (.ints m n)) =>
    if n == 0 then .error (.divisionByZero false)
    else match Numeral.quotient? m n with
      | some x => .ok (.float x)
      | none => .error .quotientTooLarge
  | some (.ok (.floats x y)) =>
    if y == 0 then .error (.divisionByZero true) else .ok (.float (x / y))
  | some (.error e) => .error e
  | none => .error (.operands "/" v.kind w.kind)

def abs (v : Value) : Result Value :=
  match v with
  | .float x => .ok (.float x.abs)
  | v => match v.int? with
    | some n => .ok (.int n.natAbs)
    | none => .error (.noMagnitude v.kind)

def compareNumbers? : Value → Value → Option Ordering
  | .float x, .float y =>
    if x < y then some .lt else if y < x then some .gt else if x == y then some .eq else none
  | .float x, w => w.int?.bind fun n => (Numeral.compareInt? n x).map Ordering.swap
  | v, .float y => v.int?.bind fun m => Numeral.compareInt? m y
  | v, w => match v.int?, w.int? with
    | some m, some n => some (compare m n)
    | _, _ => none

def isNumber : Value → Bool
  | .float _ | .int _ | .bool _ => true
  | _ => false

mutual

def precedes (op : String) (strict : Bool) : Value → Value → Result Bool
  | .text s, .text t => .ok (if strict then s < t else !(t < s))
  | .date d, .date e => .ok (if strict then d.lt e else d.le e)
  | .timestamp t, .timestamp u =>
    if t.offset.isSome != u.offset.isSome then
      .error (.wrongKind "can't compare offset-naive and offset-aware datetimes")
    else .ok (if strict then t.micros < u.micros else t.micros ≤ u.micros)
  | .list xs, .list ys => precedesItems op strict xs ys
  | v, w =>
    if v.isNumber && w.isNumber then
      .ok (match compareNumbers? v w with
        | some .lt => true
        | some .eq => !strict
        | _ => false)
    else .error (.order op v.kind w.kind)

def precedesItems (op : String) (strict : Bool) : List Value → List Value → Result Bool
  | [], [] => .ok (!strict)
  | [], _ :: _ => .ok true
  | _ :: _, [] => .ok false
  | v :: vs, w :: ws =>
    if same v w then precedesItems op strict vs ws else precedes op strict v w

end

def lt (v w : Value) : Result Bool := precedes "<" true v w

def le (v w : Value) : Result Bool := precedes "<=" false v w

def gt (v w : Value) : Result Bool := match lt w v with
  | .error (.order _ l r) => .error (.order ">" r l)
  | r => r

def ge (v w : Value) : Result Bool := match le w v with
  | .error (.order _ l r) => .error (.order ">=" r l)
  | r => r

def round (v : Value) (places : Nat) : Result Value :=
  match v with
  | .float x => match Numeral.roundTo? x places with
    | some y => .ok (.float y)
    | none => .error .roundedTooLarge
  | v => match v.int? with
    | some n => .ok (.int n)
    | none => .error (.noRounding v.kind)

def roundToInt (v : Value) : Result Value :=
  match v with
  | .float x => match Numeral.toNearestInt x with
    | .ok n => .ok (.int n)
    | .error .nan => .error .nanToInt
    | .error .infinite => .error .infiniteToInt
  | v => match v.int? with
    | some n => .ok (.int n)
    | none => .error (.noRounding v.kind)

def toFloat (v : Value) : Result Float :=
  match v with
  | .float x => .ok x
  | .text s => match Numeral.readFloat? s with
    | some x => .ok x
    | none => .error (.notFloat s)
  | v => match v.int? with
    | some n => intToFloat n
    | none => .error (.noFloat v.kind)

def toInt (v : Value) : Result Int :=
  match v with
  | .float x => match Numeral.truncate x with
    | .ok n => .ok n
    | .error .nan => .error .nanToInt
    | .error .infinite => .error .infiniteToInt
  | .text s => match Numeral.readInt s with
    | .ok n => .ok n
    | .error .malformed => .error (.notInt s)
    | .error (.tooLong n) => .error (.tooManyDigits n)
  | v => match v.int? with
    | some n => .ok n
    | none => .error (.noInt v.kind)

def places (v : Value) (n : Nat) : Result String :=
  match v with
  | .float x => .ok (Numeral.fixed x n)
  | .text _ => .error .placesOfText
  | .date _ | .timestamp _ => .ok ("." ++ toString n ++ "f")
  | v => match v.int? with
    | some k => (intToFloat k).map fun x => Numeral.fixed x n
    | none => .error (.noFormat v.kind)

end Value

class Arithmetic (α : Type) where
  ofInt : Int → α
  ofDecimal : Nat → Nat → α
  add : α → α → Result α
  sub : α → α → Result α
  mul : α → α → Result α
  div : α → α → Result α
  abs : α → Result α
  round : α → Nat → Result α
  lt : α → α → Result Bool
  le : α → α → Result Bool
  gt : α → α → Result Bool
  ge : α → α → Result Bool
  same : α → α → Bool
  toInt : α → Result Int

def Numeral.ofDecimal (mantissa places : Nat) : Float :=
  Numeral.nearestDecimal false mantissa (-(places : Int))

instance : Arithmetic Value where
  ofInt := .int
  ofDecimal m p := .float (Numeral.ofDecimal m p)
  add := Value.add
  sub := Value.sub
  mul := Value.mul
  div := Value.div
  abs := Value.abs
  round := Value.round
  lt := Value.lt
  le := Value.le
  gt := Value.gt
  ge := Value.ge
  same := Value.same
  toInt := Value.toInt

namespace Arithmetic

variable {α : Type} [Arithmetic α]

def sum (xs : List α) : Result α := xs.foldlM add (ofInt 0)

def zero : α := ofInt 0

def nought : α := ofDecimal 0 0

def accumulate {κ : Type} [BEq κ] (start : α) (totals : List (κ × α)) (key : κ) (amount : α) :
    Result (List (κ × α)) :=
  (add ((Entries.get? totals key).getD start) amount).map (Entries.put totals key)

def mean (xs : List α) : Result α := do div (← sum xs) (ofInt xs.length)

def larger (x y : α) : Result α := do return if ← gt y x then y else x

end Arithmetic

end CloudSpend

/-! ## Rankings -/

namespace CloudSpend

namespace Ranking

variable {β : Type}

def ascending (below : β → β → Bool) : List β → Nat
  | [] => 0
  | [_] => 1
  | a :: b :: rest => if below b a then 1 else ascending below (b :: rest) + 1

def falling (below : β → β → Bool) : List β → Nat
  | [] => 0
  | [_] => 1
  | a :: b :: rest => if below b a then falling below (b :: rest) + 1 else 1

def splitRun (below : β → β → Bool) (xs : List β) : List β × List β :=
  match xs with
  | a :: b :: _ =>
    if below b a then
      let n := falling below xs
      ((xs.take n).reverse, xs.drop n)
    else
      let n := ascending below xs
      (xs.take n, xs.drop n)
  | xs => (xs, [])

def place (below : β → β → Bool) (x : β) (xs : Array β) : Nat → Nat → Nat → Nat
  | 0, low, _ => low
  | size + 1, low, high =>
    if low < high then
      let middle := low + (high - low) / 2
      match xs[middle]? with
      | some y => if below x y then place below x xs size low middle
        else place below x xs size (middle + 1) high
      | none => low
    else low

def insert (below : β → β → Bool) (xs : List β) (x : β) : List β :=
  let n := place below x xs.toArray xs.length 0 xs.length
  xs.take n ++ x :: xs.drop n

def byPlacing (below : β → β → Bool) (xs : List β) : List β :=
  let (run, rest) := splitRun below xs
  rest.foldl (insert below) run

end Ranking

namespace Arithmetic

variable {α : Type} [Arithmetic α]

def below (x y : α) : Bool :=
  match lt x y with
  | .ok b => b
  | .error _ => false

def isOrdered (x : α) : Bool :=
  match le x x with
  | .ok b => b
  | .error _ => false

def descending {β : Type} (key : β → α) (xs : List β) : List β :=
  if xs.all fun x => isOrdered (key x) then xs.mergeSort fun a b => !below (key a) (key b)
  else (Ranking.byPlacing (fun a b => below (key a) (key b)) xs.reverse).reverse

end Arithmetic

end CloudSpend
