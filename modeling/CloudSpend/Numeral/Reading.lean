import CloudSpend.Numeral.Binary
import CloudSpend.Text.Character

/-! # Reading numbers from text -/

namespace CloudSpend.Numeral

open CloudSpend.Text

def isAsciiBlank (c : Char) : Bool :=
  c == ' ' || c == '\t' || c == '\n' || c == '\r' || c == '\x0b' || c == '\x0c'

def plainChar (c : Char) : Char :=
  if c.toNat < 128 then c
  else match decimalValue? c with
    | some d => Char.ofNat (48 + d)
    | none => if isBlank c then ' ' else c

def plain (s : String) : List Char :=
  let cs := s.toList.map plainChar
  ((cs.dropWhile isAsciiBlank).reverse.dropWhile isAsciiBlank).reverse

def joinDigits? : Bool → List Char → Option (List Char)
  | _, [] => some []
  | afterDigit, '_' :: rest =>
    match rest with
    | d :: _ => if afterDigit && d.isDigit then joinDigits? false rest else none
    | [] => none
  | _, c :: rest => (joinDigits? c.isDigit rest).map (c :: ·)

def digitsValue (ds : List Char) : Nat := ds.foldl (fun n c => 10 * n + (c.toNat - 48)) 0

def takeSign : List Char → Bool × List Char
  | '-' :: r => (true, r)
  | '+' :: r => (false, r)
  | r => (false, r)

def exponent? : List Char → Option Int
  | [] => some 0
  | c :: rest =>
    if c == 'e' || c == 'E' then
      let (negative, ds) := takeSign rest
      if ds.isEmpty || !ds.all Char.isDigit then none
      else some (if negative then -(digitsValue ds : Int) else digitsValue ds)
    else none

def nearestDecimal (negative : Bool) (digits : Nat) (exponent : Int) : Float :=
  let zero := (nearest? negative 0 1).getD 0
  if digits == 0 then zero
  else
    let size : Int := (Nat.toDigits 10 digits).length + exponent
    if 400 < size then infinity negative
    else if size < -400 then zero
    else
      let found := if 0 ≤ exponent then nearest? negative (digits * tenTo exponent.toNat) 1
        else nearest? negative digits (tenTo (-exponent).toNat)
      found.getD (infinity negative)

def decimal? (negative : Bool) (cs : List Char) : Option Float :=
  let whole := cs.takeWhile Char.isDigit
  let rest := cs.dropWhile Char.isDigit
  let (fraction, tail) := match rest with
    | '.' :: r => (r.takeWhile Char.isDigit, r.dropWhile Char.isDigit)
    | r => ([], r)
  if whole.isEmpty && fraction.isEmpty then none
  else (exponent? tail).map fun e =>
    nearestDecimal negative (digitsValue (whole ++ fraction)) (e - fraction.length)

def readFloat? (s : String) : Option Float := do
  let cs ← joinDigits? false (plain s)
  let (negative, body) := takeSign cs
  let word := String.ofList (body.map Char.toLower)
  if word == "inf" || word == "infinity" then some (infinity negative)
  else if word == "nan" then some notANumber
  else decimal? negative body

inductive NotAnInteger where
  | malformed
  | tooLong (digits : Nat)
  deriving Repr, DecidableEq

def maxDigits : Nat := 4300

def readInt (s : String) : Except NotAnInteger Int :=
  let (negative, body) := takeSign (plain s)
  match joinDigits? false body with
  | none => .error .malformed
  | some ds =>
    if ds.isEmpty || !ds.all Char.isDigit then .error .malformed
    else if maxDigits < ds.length then .error (.tooLong ds.length)
    else .ok (if negative then -(digitsValue ds : Int) else digitsValue ds)

end CloudSpend.Numeral
