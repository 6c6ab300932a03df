/-! # Base 64 -/

namespace CloudSpend.Codec.Base64

structure Alphabet where
  last : Char × Char
  padded : Bool

def standard : Alphabet := ⟨('+', '/'), true⟩

def forUrls : Alphabet := ⟨('-', '_'), false⟩

def Alphabet.sign (a : Alphabet) (n : Nat) : Char :=
  if n < 26 then Char.ofNat (n + 65)
  else if n < 52 then Char.ofNat (n + 71)
  else if n < 62 then Char.ofNat (n - 4)
  else if n == 62 then a.last.1 else a.last.2

def Alphabet.value? (a : Alphabet) (c : Char) : Option Nat :=
  let n := c.toNat
  if 'A' ≤ c && c ≤ 'Z' then some (n - 65)
  else if 'a' ≤ c && c ≤ 'z' then some (n - 71)
  else if '0' ≤ c && c ≤ '9' then some (n + 4)
  else if c == a.last.1 || c == '+' then some 62
  else if c == a.last.2 || c == '/' then some 63
  else none

def encodeBytes (a : Alphabet) : List Nat → List Char
  | x :: y :: z :: rest =>
    a.sign (x / 4) :: a.sign (x % 4 * 16 + y / 16) :: a.sign (y % 16 * 4 + z / 64)
      :: a.sign (z % 64) :: encodeBytes a rest
  | [x, y] =>
    [a.sign (x / 4), a.sign (x % 4 * 16 + y / 16), a.sign (y % 16 * 4)]
      ++ (if a.padded then ['='] else [])
  | [x] => [a.sign (x / 4), a.sign (x % 4 * 16)] ++ (if a.padded then ['=', '='] else [])
  | [] => []

structure Reader where
  place : Nat := 0
  left : Nat := 0
  pads : Nat := 0
  bytes : List Nat := []

def Reader.add (r : Reader) (v : Nat) : Reader :=
  match r.place with
  | 0 => ⟨1, v, 0, r.bytes⟩
  | 1 => ⟨2, v % 16, 0, (r.left * 4 + v / 16) :: r.bytes⟩
  | 2 => ⟨3, v % 4, 0, (r.left * 16 + v / 4) :: r.bytes⟩
  | _ => ⟨0, 0, 0, (r.left * 64 + v) :: r.bytes⟩

def Reader.read (a : Alphabet) (r : Reader) : List Char → Option (List Nat)
  | [] => if r.place == 0 then some r.bytes.reverse else none
  | c :: cs =>
    if c == '=' then
      if 2 ≤ r.place then
        if 4 ≤ r.place + (r.pads + 1) then some r.bytes.reverse
        else Reader.read a { r with pads := r.pads + 1 } cs
      else Reader.read a r cs
    else match a.value? c with
      | some v => Reader.read a (r.add v) cs
      | none => Reader.read a r cs

def decode? (a : Alphabet) (cs : List Char) : Option (List Nat) :=
  Reader.read a {} (cs ++ List.replicate ((4 - cs.length % 4) % 4) '=')

def encode (a : Alphabet) (s : String) : String :=
  String.ofList (encodeBytes a (s.toUTF8.toList.map UInt8.toNat))

end CloudSpend.Codec.Base64
