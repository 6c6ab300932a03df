import CloudSpend.Numeral.Binary

/-! # Decimals of binary numbers -/

namespace CloudSpend.Numeral

structure Decimal where
  digits : Nat
  exponent : Int
  deriving Repr, DecidableEq

namespace Decimal

def ratio (d : Decimal) : Nat × Nat :=
  if 0 ≤ d.exponent then (d.digits * tenTo d.exponent.toNat, 1)
  else (d.digits, tenTo (-d.exponent).toNat)

def word? (d : Decimal) : Option Nat :=
  let (num, den) := d.ratio
  if num == 0 then some 0
  else
    let e := exponentOf num den
    pack? (mantissaAt num den e) e

end Decimal

def magnitudeFrom (num den : Nat) : Nat → Int → Int
  | 0, k => k
  | fuel + 1, k =>
    let below := if 0 ≤ k then num < den * tenTo k.toNat else num * tenTo (-k).toNat < den
    if below then k else magnitudeFrom num den fuel (k + 1)

def magnitude (num den : Nat) : Int :=
  let bits : Int := (num.log2 : Int) - (den.log2 : Int) - 1
  magnitudeFrom num den 8 (Int.fdiv (bits * 30103) 100000 - 1)

def neighbours (num den : Nat) (k : Int) (n : Nat) : Decimal × Decimal :=
  let exponent := k - n
  let units := if 0 ≤ exponent then num / (den * tenTo exponent.toNat)
    else num * tenTo (-exponent).toNat / den
  (⟨units, exponent⟩, ⟨units + 1, exponent⟩)

def nearer (num den : Nat) (lo hi : Decimal) : Decimal :=
  let (ln, ld) := lo.ratio
  let (hn, hd) := hi.ratio
  let below := num * ld * hd - ln * den * hd
  let above := hn * den * ld - num * ld * hd
  if below < above then lo
  else if above < below then hi
  else if lo.digits % 2 == 0 then lo else hi

def shortestFrom (word num den : Nat) (k : Int) : Nat → Nat → Decimal
  | 0, n => (neighbours num den k n).1
  | fuel + 1, n =>
    let (lo, hi) := neighbours num den k n
    match lo.word? == some word, hi.word? == some word with
    | true, true => nearer num den lo hi
    | true, false => lo
    | false, true => hi
    | false, false => shortestFrom word num den k fuel (n + 1)

def shortest (word mantissa : Nat) (exponent : Int) : Decimal :=
  let (num, den) := ratio mantissa exponent
  shortestFrom word num den (magnitude num den) 17 1

structure Layout where
  leastPositional : Int
  greatestPositional : Int
  wholeMark : String
  digitMark : String
  exponentWidth : Nat
  deriving Repr

def layout : Layout := ⟨-4, 15, ".0", "", 2⟩

def significant (n : Nat) : List Char :=
  ((Nat.toDigits 10 n).reverse.dropWhile (· == '0')).reverse

def Layout.write (l : Layout) (digits : List Char) (point : Int) : String :=
  let n := digits.length
  let exponent := point - 1
  if l.leastPositional ≤ exponent && exponent ≤ l.greatestPositional then
    if point ≤ 0 then
      String.ofList ("0.".toList ++ List.replicate (-point).toNat '0' ++ digits)
    else if n ≤ point.toNat then
      String.ofList (digits ++ List.replicate (point.toNat - n) '0') ++ l.wholeMark
    else
      String.ofList (digits.take point.toNat ++ ['.'] ++ digits.drop point.toNat)
  else
    let fraction := digits.drop 1
    let tail := if fraction.isEmpty then l.digitMark.toList else '.' :: fraction
    let sign := if exponent < 0 then '-' else '+'
    String.ofList (digits.take 1 ++ tail ++ ['e', sign] ++ padded l.exponentWidth exponent.natAbs)

def text (x : Float) : String :=
  match Binary.ofFloat x with
  | .nan => "nan"
  | .infinite negative => if negative then "-inf" else "inf"
  | .finite negative m e =>
    let sign := if negative then "-" else ""
    if m == 0 then sign ++ "0" ++ layout.wholeMark
    else
      let d := shortest (x.toBits.toNat % twoTo 63) m e
      let all := Nat.toDigits 10 d.digits
      sign ++ layout.write (significant d.digits) (d.exponent + all.length)

/-! ## Numbers to a number of significant digits -/

def leading (num den : Nat) (k : Int) (n : Nat) : Decimal :=
  let exponent := k - n
  let (num, den) := if 0 ≤ exponent then (num, den * tenTo exponent.toNat)
    else (num * tenTo (-exponent).toNat, den)
  ⟨(2 * num + den) / (2 * den), exponent⟩

def columnLayout : Layout := ⟨-4, 14, ".0", ".0", 2⟩

def columnText? (x : Float) : Option String :=
  match Binary.ofFloat x with
  | .nan => none
  | .infinite negative => some (if negative then "-Inf" else "Inf")
  | .finite negative m e =>
    if m == 0 then some "0.0"
    else
      let (num, den) := ratio m e
      let d := leading num den (magnitude num den) 15
      let all := Nat.toDigits 10 d.digits
      some ((if negative then "-" else "")
        ++ columnLayout.write (significant d.digits) (d.exponent + all.length))

end CloudSpend.Numeral
