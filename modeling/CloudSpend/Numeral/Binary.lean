/-! # Binary numbers -/

namespace CloudSpend.Numeral

abbrev twoTo (k : Nat) : Nat := Nat.pow 2 k

abbrev tenTo (k : Nat) : Nat := Nat.pow 10 k

inductive Binary where
  | nan
  | infinite (negative : Bool)
  | finite (negative : Bool) (mantissa : Nat) (exponent : Int)
  deriving Repr, DecidableEq

namespace Binary

def ofBits (bits : Nat) : Binary :=
  let negative := bits / twoTo 63 % 2 == 1
  let field : Nat := bits / twoTo 52 % 2048
  let fraction : Nat := bits % twoTo 52
  if field == 2047 then
    if fraction == 0 then .infinite negative else .nan
  else if field == 0 then .finite negative fraction (-1074)
  else .finite negative (fraction + twoTo 52) ((field : Int) - 1075)

def ofFloat (x : Float) : Binary := ofBits x.toBits.toNat

end Binary

def ratio (mantissa : Nat) (exponent : Int) : Nat × Nat :=
  if 0 ≤ exponent then (mantissa * twoTo exponent.toNat, 1)
  else (mantissa, twoTo (-exponent).toNat)

def roundDiv (num den : Nat) : Nat :=
  let q := num / den
  let r := num % den
  if 2 * r < den then q
  else if den < 2 * r then q + 1
  else if q % 2 == 0 then q else q + 1

def mantissaAt (num den : Nat) (exponent : Int) : Nat :=
  if 0 ≤ exponent then roundDiv num (den * twoTo exponent.toNat)
  else roundDiv (num * twoTo (-exponent).toNat) den

def exponentOf (num den : Nat) : Int :=
  let guess : Int := (num.log2 : Int) - (den.log2 : Int) - 52
  let fits := if 0 ≤ guess then den * twoTo guess.toNat * twoTo 52 ≤ num
    else den * twoTo 52 ≤ num * twoTo (-guess).toNat
  max (if fits then guess else guess - 1) (-1074)

def pack? (mantissa : Nat) (exponent : Int) : Option Nat :=
  if mantissa < twoTo 52 then some mantissa
  else
    let (m, e) := if mantissa == twoTo 53 then (twoTo 52, exponent + 1) else (mantissa, exponent)
    let field := (e + 1075).toNat
    if 2047 ≤ field then none else some (field * twoTo 52 + (m - twoTo 52))

def nearest? (negative : Bool) (num den : Nat) : Option Float :=
  let sign := if negative then twoTo 63 else 0
  if num == 0 then some (Float.ofBits (UInt64.ofNat sign))
  else
    let e := exponentOf num den
    (pack? (mantissaAt num den e) e).map fun word => Float.ofBits (UInt64.ofNat (sign + word))

def infinity (negative : Bool) : Float :=
  Float.ofBits (if negative then 0xFFF0000000000000 else 0x7FF0000000000000)

def notANumber : Float := Float.ofBits 0x7FF8000000000000

def ofInt? (n : Int) : Option Float := nearest? (n < 0) n.natAbs 1

/-! ## Binary numbers in decimal places -/

def padded (width n : Nat) : List Char :=
  let ds := Nat.toDigits 10 n
  List.replicate (width - ds.length) '0' ++ ds

def scaled (num den places : Nat) : Nat := roundDiv (num * tenTo places) den

def placesText (units places : Nat) : String :=
  if places == 0 then String.ofList (padded 1 units)
  else
    String.ofList (padded 1 (units / tenTo places)) ++ "."
      ++ String.ofList (padded places (units % tenTo places))

def fixed (x : Float) (places : Nat) : String :=
  match Binary.ofFloat x with
  | .nan => "nan"
  | .infinite negative => if negative then "-inf" else "inf"
  | .finite negative m e =>
    let (num, den) := ratio m e
    (if negative then "-" else "") ++ placesText (scaled num den places) places

def roundTo? (x : Float) (places : Nat) : Option Float :=
  match Binary.ofFloat x with
  | .finite negative m e =>
    let (num, den) := ratio m e
    nearest? negative (scaled num den places) (tenTo places)
  | _ => some x

inductive NoInteger where
  | nan
  | infinite
  deriving Repr, DecidableEq

def toNearestInt (x : Float) : Except NoInteger Int :=
  match Binary.ofFloat x with
  | .nan => .error .nan
  | .infinite _ => .error .infinite
  | .finite negative m e =>
    let (num, den) := ratio m e
    .ok (if negative then -(roundDiv num den : Int) else roundDiv num den)

def truncate (x : Float) : Except NoInteger Int :=
  match Binary.ofFloat x with
  | .nan => .error .nan
  | .infinite _ => .error .infinite
  | .finite negative m e =>
    let (num, den) := ratio m e
    .ok (if negative then -((num / den : Nat) : Int) else ((num / den : Nat) : Int))

def compareInt? (n : Int) (x : Float) : Option Ordering :=
  match Binary.ofFloat x with
  | .nan => none
  | .infinite negative => some (if negative then .gt else .lt)
  | .finite negative m e =>
    let (num, den) := ratio m e
    let v : Int := if negative then -(num : Int) else num
    some (compare (n * den) v)

def quotient? (a b : Int) : Option Float :=
  nearest? (decide (a < 0) != decide (b < 0) && a != 0) a.natAbs b.natAbs

end CloudSpend.Numeral
