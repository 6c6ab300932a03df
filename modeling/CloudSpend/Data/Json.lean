import CloudSpend.Data.Arithmetic

/-! # JSON -/

namespace CloudSpend.Json

inductive Problem where
  | at (what : String) (position : Nat)
  | tooManyDigits (digits : Nat)
  | tooDeep (table : Bool)

def maxDepth : Nat := 980

abbrev Step (α : Type) := Except Problem (α × Nat × List Char)

def isSpace (c : Char) : Bool := c == ' ' || c == '\t' || c == '\n' || c == '\r'

def skip : Nat → List Char → Nat × List Char
  | pos, c :: rest => if isSpace c then skip (pos + 1) rest else (pos, c :: rest)
  | pos, [] => (pos, [])

def hexValue? (c : Char) : Option Nat :=
  if '0' ≤ c && c ≤ '9' then some (c.toNat - 48)
  else if 'a' ≤ c && c ≤ 'f' then some (c.toNat - 87)
  else if 'A' ≤ c && c ≤ 'F' then some (c.toNat - 55)
  else none

def codeUnit? : List Char → Option (Nat × List Char)
  | a :: b :: c :: d :: e :: rest => do
    let a ← hexValue? a
    let b ← hexValue? b
    let c ← hexValue? c
    let d ← hexValue? d
    some (((a * 16 + b) * 16 + c) * 16 + d, e :: rest)
  | _ => none

def simpleEscape? (c : Char) : Option Char :=
  match c with
  | '"' => some '"'
  | '\\' => some '\\'
  | '/' => some '/'
  | 'b' => some '\x08'
  | 'f' => some '\x0c'
  | 'n' => some '\n'
  | 'r' => some '\r'
  | 't' => some '\t'
  | _ => none

def chars (start : Nat) : Nat → Nat → List Char → List Char → Step String
  | 0, _, _, _ => .error (.at "Unterminated string starting at" start)
  | fuel + 1, pos, acc, cs =>
    match cs with
    | [] => .error (.at "Unterminated string starting at" start)
    | '"' :: rest => .ok (String.ofList acc.reverse, pos + 1, rest)
    | '\\' :: [] => .error (.at "Unterminated string starting at" start)
    | '\\' :: 'u' :: rest =>
      match codeUnit? rest with
      | none => .error (.at "Invalid \\uXXXX escape" (pos + 1))
      | some (hi, rest) =>
        match hi, rest with
        | hi, '\\' :: 'u' :: more =>
          if 0xD800 ≤ hi && hi ≤ 0xDBFF then
            match codeUnit? more with
            | none => .error (.at "Invalid \\uXXXX escape" (pos + 7))
            | some (lo, after) =>
              match Text.ofPair? hi lo with
              | some c => chars start fuel (pos + 12) (c :: acc) after
              | none => chars start fuel (pos + 6) (Text.ofUnit hi :: acc) rest
          else chars start fuel (pos + 6) (Text.ofUnit hi :: acc) rest
        | hi, rest => chars start fuel (pos + 6) (Text.ofUnit hi :: acc) rest
    | '\\' :: c :: rest =>
      match simpleEscape? c with
      | some e => chars start fuel (pos + 2) (e :: acc) rest
      | none => .error (.at "Invalid \\escape" pos)
    | c :: rest =>
      if c.toNat < 32 then .error (.at "Invalid control character at" pos)
      else chars start fuel (pos + 1) (c :: acc) rest

def numeral? (cs : List Char) : Option (Bool × List Char × List Char × List Char × List Char) := do
  let (negative, cs) := match cs with
    | '-' :: r => (true, r)
    | r => (false, r)
  let (whole, rest) ← match cs with
    | '0' :: r => some (['0'], r)
    | c :: r =>
      (if c.isDigit then some (c :: r.takeWhile Char.isDigit, r.dropWhile Char.isDigit) else none)
    | [] => none
  let (fraction, rest) := match rest with
    | '.' :: r =>
      let ds := r.takeWhile Char.isDigit
      if ds.isEmpty then ([], rest) else (ds, r.dropWhile Char.isDigit)
    | r => ([], r)
  let (power, rest) := match rest with
    | e :: r =>
      if e == 'e' || e == 'E' then
        let (sign, r) := match r with
          | '+' :: r => (['+'], r)
          | '-' :: r => (['-'], r)
          | r => ([], r)
        let ds := r.takeWhile Char.isDigit
        if ds.isEmpty then ([], rest) else (sign ++ ds, r.dropWhile Char.isDigit)
      else ([], rest)
    | [] => ([], [])
  some (negative, whole, fraction, power, rest)

def number (pos : Nat) (cs : List Char) : Step Value :=
  match numeral? cs with
  | none => .error (.at "Expecting value" pos)
  | some (negative, whole, fraction, power, rest) =>
    let next := pos + (if negative then 1 else 0) + whole.length
      + (if fraction.isEmpty then 0 else fraction.length + 1)
      + (if power.isEmpty then 0 else power.length + 1)
    if fraction.isEmpty && power.isEmpty then
      if Numeral.maxDigits < whole.length then .error (.tooManyDigits whole.length)
      else
        let n := Numeral.digitsValue whole
        .ok (.int (if negative then -(n : Int) else n), next, rest)
    else
      let (down, ds) := Numeral.takeSign power
      let e : Int := if down then -(Numeral.digitsValue ds : Int) else Numeral.digitsValue ds
      let x := Numeral.nearestDecimal negative (Numeral.digitsValue (whole ++ fraction))
        (e - fraction.length)
      .ok (.float x, next, rest)

def afterWord? (word : String) (cs : List Char) : Option (List Char) :=
  if word.toList.isPrefixOf cs then some (cs.drop word.length) else none

def words : List (String × Value) :=
  [("null", .null), ("true", .bool true), ("false", .bool false), ("NaN", .float Numeral.notANumber),
   ("Infinity", .float (Numeral.infinity false)), ("-Infinity", .float (Numeral.infinity true))]

def scalar (pos : Nat) (cs : List Char) : Step Value :=
  match words.findSome? fun w => (afterWord? w.1 cs).map fun rest => (w.2, pos + w.1.length, rest) with
  | some step => .ok step
  | none => number pos cs

mutual

def value : Nat → Nat → Nat → List Char → Step Value
  | 0, _, pos, _ => .error (.at "Expecting value" pos)
  | fuel + 1, room, pos, cs =>
    match cs with
    | [] => .error (.at "Expecting value" pos)
    | '"' :: rest => (chars pos fuel (pos + 1) [] rest).map fun (s, r) => (.text s, r)
    | '[' :: rest =>
      match room with
      | 0 => .error (.tooDeep false)
      | room + 1 =>
        match skip (pos + 1) rest with
        | (pos, ']' :: rest) => .ok (.list [], pos + 1, rest)
        | (pos, rest) => items fuel room pos [] rest
    | '\x7b' :: rest =>
      match room with
      | 0 => .error (.tooDeep true)
      | room + 1 =>
        match skip (pos + 1) rest with
        | (pos, '\x7d' :: rest) => .ok (.object [], pos + 1, rest)
        | (pos, rest) => entries fuel room pos [] rest
    | cs => scalar pos cs

def items : Nat → Nat → Nat → List Value → List Char → Step Value
  | 0, _, pos, _, _ => .error (.at "Expecting value" pos)
  | fuel + 1, room, pos, acc, cs =>
    match value fuel room pos cs with
    | .error e => .error e
    | .ok (v, pos, rest) =>
      match skip pos rest with
      | (pos, ']' :: rest) => .ok (.list (v :: acc).reverse, pos + 1, rest)
      | (pos, ',' :: rest) =>
        let (pos, rest) := skip (pos + 1) rest
        items fuel room pos (v :: acc) rest
      | (pos, _) => .error (.at "Expecting ',' delimiter" pos)

def entries : Nat → Nat → Nat → List (String × Value) → List Char → Step Value
  | 0, _, pos, _, _ => .error (.at "Expecting value" pos)
  | fuel + 1, room, pos, acc, cs =>
    match cs with
    | '"' :: rest =>
      match chars pos fuel (pos + 1) [] rest with
      | .error e => .error e
      | .ok (key, pos, rest) =>
        match skip pos rest with
        | (pos, ':' :: rest) =>
          let (pos, rest) := skip (pos + 1) rest
          match value fuel room pos rest with
          | .error e => .error e
          | .ok (v, pos, rest) =>
            let acc := Entries.put acc key v
            match skip pos rest with
            | (pos, '\x7d' :: rest) => .ok (.object acc, pos + 1, rest)
            | (pos, ',' :: rest) =>
              let (pos, rest) := skip (pos + 1) rest
              entries fuel room pos acc rest
            | (pos, _) => .error (.at "Expecting ',' delimiter" pos)
        | (pos, _) => .error (.at "Expecting ':' delimiter" pos)
    | _ => .error (.at "Expecting property name enclosed in double quotes" pos)

end

def lineColumn (cs : List Char) (pos : Nat) : Nat × Nat :=
  let before := cs.take pos
  (before.count '\n' + 1, (before.reverse.takeWhile (· != '\n')).length + 1)

def Problem.fault (cs : List Char) : Problem → Fault
  | .at what pos =>
    let (line, column) := lineColumn cs pos
    .json (what ++ ": line " ++ toString line ++ " column " ++ toString column ++ " (char "
      ++ toString pos ++ ")")
  | .tooManyDigits n => .tooManyDigits n
  | .tooDeep table => .tooDeep (if table then "object" else "array")

def readChars (cs : List Char) : Except Problem Value :=
  let (pos, rest) := skip 0 cs
  match value (2 * cs.length + 2) maxDepth pos rest with
  | .error e => .error e
  | .ok (v, pos, rest) =>
    match skip pos rest with
    | (_, []) => .ok v
    | (pos, _) => .error (.at "Extra data" pos)

def decodeChars (cs : List Char) : Result Value := (readChars cs).mapError (Problem.fault cs)

def read (s : String) : Result Value :=
  match s.toList with
  | '\uFEFF' :: cs => .error (Problem.fault ('\uFEFF' :: cs)
      (.at "Unexpected UTF-8 BOM (decode using utf-8-sig)" 0))
  | cs => decodeChars cs

/-! ## Reading JSON from bytes -/

inductive Code where
  | bytes
  | marked
  | pairs (highFirst : Bool)
  | quads (highFirst : Bool)
  deriving Repr, DecidableEq

def codeOf (bs : List Nat) : Code :=
  match bs with
  | 0xEF :: 0xBB :: 0xBF :: _ => .marked
  | 0 :: 0 :: _ :: _ :: _ => .quads true
  | 0 :: _ :: _ :: _ :: _ => .pairs true
  | _ :: 0 :: 0 :: 0 :: _ => .quads false
  | _ :: 0 :: _ :: _ :: _ => .pairs false
  | [0, _] => .pairs true
  | [_, 0] => .pairs false
  | _ => .bytes

def readPairs (highFirst : Bool) : Nat → Option Nat → List Nat → Result (List Char)
  | _, pending, [] => .ok (pending.map Text.ofUnit).toList
  | position, _, [b] => .error (.undecodable (if highFirst then "utf-16-be" else "utf-16-le") b
      position 1 "truncated data")
  | position, pending, a :: b :: rest =>
    let unit := if highFirst then a * 256 + b else b * 256 + a
    let next (pending : Option Nat) : Result (List Char) :=
      readPairs highFirst (position + 2) pending rest
    match pending with
    | none =>
      if Text.isHalf unit then next (some unit) else (next none).map (Char.ofNat unit :: ·)
    | some high =>
      match Text.ofPair? high unit with
      | some c => (next none).map (c :: ·)
      | none =>
        if Text.isHalf unit then (next (some unit)).map (Text.ofUnit high :: ·)
        else (next none).map fun cs => Text.ofUnit high :: Char.ofNat unit :: cs

def readQuads (highFirst : Bool) : Nat → List Nat → Result (List Char)
  | _, [] => .ok []
  | position, a :: b :: c :: d :: rest =>
    let unit := if highFirst then ((a * 256 + b) * 256 + c) * 256 + d
      else ((d * 256 + c) * 256 + b) * 256 + a
    if 0x10FFFF < unit then
      .error (.undecodable (if highFirst then "utf-32-be" else "utf-32-le") a position 4
        "code point not in range(0x110000)")
    else (readQuads highFirst (position + 4) rest).map (Text.ofUnit unit :: ·)
  | position, b :: rest => .error (.undecodable (if highFirst then "utf-32-be" else "utf-32-le") b
      position (rest.length + 1) "truncated data")

def readEncoded (s : String) : Result Value := do
  let bs ← Text.bytes s
  match codeOf bs with
  | .bytes => decodeChars s.toList
  | .marked => decodeChars (s.toList.drop 1)
  | .pairs highFirst => decodeChars (← readPairs highFirst 0 none bs)
  | .quads highFirst => decodeChars (← readQuads highFirst 0 bs)

/-! ## Writing JSON -/

structure Style where
  /-- What stands between two parts on one line. -/
  comma : String
  colon : String
  indent : Option Nat
  ascii : Bool := true
  deriving Repr

def Style.plain : Style := ⟨", ", ": ", none, true⟩

def Style.compact : Style := ⟨",", ":", none, true⟩

def Style.direct : Style := ⟨",", ":", none, false⟩

def Style.indented : Style := ⟨",", ": ", some 2, true⟩

def escapeChar (ascii : Bool) (c : Char) : List Char :=
  if c == '"' || c == '\\' then ['\\', c]
  else if c == '\n' then ['\\', 'n']
  else if c == '\r' then ['\\', 'r']
  else if c == '\t' then ['\\', 't']
  else if c == '\x08' then ['\\', 'b']
  else if c == '\x0c' then ['\\', 'f']
  else if 32 ≤ c.toNat && (c.toNat < 127 || !ascii) then [c]
  else if c.toNat < 0x10000 then '\\' :: 'u' :: Text.hex 4 c.toNat
  else match Text.half? c with
    | some unit => '\\' :: 'u' :: Text.hex 4 unit
    | none =>
      let n := c.toNat - 0x10000
      ('\\' :: 'u' :: Text.hex 4 (0xD800 + n / 0x400))
        ++ ('\\' :: 'u' :: Text.hex 4 (0xDC00 + n % 0x400))

def quoteIn (ascii : Bool) (s : String) : String :=
  String.ofList ('"' :: (s.toList.flatMap (escapeChar ascii) ++ ['"']))

def quote (s : String) : String := quoteIn true s

def floatText (x : Float) : String :=
  match Numeral.Binary.ofFloat x with
  | .nan => "NaN"
  | .infinite negative => if negative then "-Infinity" else "Infinity"
  | .finite .. => Numeral.text x

def breakLine (s : Style) (level : Nat) : String :=
  match s.indent with
  | some n => "\n" ++ String.ofList (List.replicate (n * level) ' ')
  | none => ""

mutual

def writeAt (s : Style) (level : Nat) : Value → String
  | .null => "null"
  | .bool b => if b then "true" else "false"
  | .int n => toString n
  | .float x => floatText x
  | .text t => quoteIn s.ascii t
  | .date d => quote d.text
  | .timestamp t => quote t.spacedText
  | .list [] => "[]"
  | .list xs => "[" ++ breakLine s (level + 1) ++ writeItems s (level + 1) xs
      ++ breakLine s level ++ "]"
  | .object [] => "\x7b\x7d"
  | .object es => "\x7b" ++ breakLine s (level + 1) ++ writeEntries s (level + 1) es
      ++ breakLine s level ++ "\x7d"

def writeItems (s : Style) (level : Nat) : List Value → String
  | [] => ""
  | [v] => writeAt s level v
  | v :: rest => writeAt s level v ++ s.comma ++ breakLine s level ++ writeItems s level rest

def writeEntries (s : Style) (level : Nat) : List (String × Value) → String
  | [] => ""
  | [(k, v)] => quoteIn s.ascii k ++ s.colon ++ writeAt s level v
  | (k, v) :: rest => quoteIn s.ascii k ++ s.colon ++ writeAt s level v ++ s.comma ++ breakLine s level
      ++ writeEntries s level rest

end

def writeIn (s : Style) (v : Value) : String := writeAt s 0 v

def write (v : Value) : String := writeIn .plain v

mutual

def foreign? : Value → Option String
  | .date _ => some "date"
  | .timestamp _ => some "datetime"
  | .list xs => foreignInList? xs
  | .object es => foreignInTable? es
  | _ => none

def foreignInList? : List Value → Option String
  | [] => none
  | v :: rest => (foreign? v).or (foreignInList? rest)

def foreignInTable? : List (String × Value) → Option String
  | [] => none
  | (_, v) :: rest => (foreign? v).or (foreignInTable? rest)

end

def encode (v : Value) : Result String :=
  match foreign? v with
  | some kind => .error (.wrongKind ("Object of type " ++ kind ++ " is not JSON serializable"))
  | none => .ok (write v)

def keyText (key : Value) : Result String :=
  match key with
  | .text s => .ok s
  | .null | .bool _ | .int _ | .float _ => .ok (write key)
  | .date _ => .error (.wrongKind "keys must be str, int, float, bool or None, not date")
  | .timestamp _ => .error (.wrongKind "keys must be str, int, float, bool or None, not datetime")
  | .list _ => .error (.unhashable .list)
  | .object _ => .error (.unhashable .object)

end CloudSpend.Json
