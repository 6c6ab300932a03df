import CloudSpend.Data.Fault

/-! # Separated values -/

namespace CloudSpend.Codec.Csv

inductive Phase where
  | recordStart
  | fieldStart
  | inField
  | inQuotes
  | afterQuote
  | lineEnd
  deriving Repr, DecidableEq

structure State where
  phase : Phase := .recordStart
  field : List Char := []
  size : Nat := 0
  fields : List String := []

def fieldLimit : Nat := 131072

def State.add (s : State) (c : Char) (phase : Phase) : Result State :=
  if fieldLimit ≤ s.size then .error (.csv "field larger than field limit (131072)")
  else .ok { s with phase := phase, field := c :: s.field, size := s.size + 1 }

def State.save (s : State) (phase : Phase) : State :=
  ⟨phase, [], 0, String.ofList s.field.reverse :: s.fields⟩

def isLineEnd (c : Char) : Bool := c == '\n' || c == '\r'

def State.beginField (s : State) (c : Char) : Result State :=
  if isLineEnd c then .ok (s.save .lineEnd)
  else if c == '"' then .ok { s with phase := .inQuotes }
  else if c == ',' then .ok (s.save .fieldStart)
  else s.add c .inField

def State.read (s : State) (c : Char) : Result State :=
  match s.phase with
  | .recordStart => if isLineEnd c then .ok { s with phase := .lineEnd } else s.beginField c
  | .fieldStart => s.beginField c
  | .inField =>
    if isLineEnd c then .ok (s.save .lineEnd)
    else if c == ',' then .ok (s.save .fieldStart)
    else s.add c .inField
  | .inQuotes => if c == '"' then .ok { s with phase := .afterQuote } else s.add c .inQuotes
  | .afterQuote =>
    if c == '"' then s.add c .inQuotes
    else if c == ',' then .ok (s.save .fieldStart)
    else if isLineEnd c then .ok (s.save .lineEnd)
    else s.add c .inField
  | .lineEnd =>
    if isLineEnd c then .ok s
    else .error (.csv ("new-line character seen in unquoted field - do you need to open the file "
      ++ "in universal-newline mode?"))

def State.endLine (s : State) : State × Option (List String) :=
  match s.phase with
  | .inQuotes => (s, none)
  | .recordStart | .lineEnd => ({}, some s.fields.reverse)
  | .fieldStart | .inField | .afterQuote => ({}, some (s.save .recordStart).fields.reverse)

def scan (s : State) (begun : Bool) : List Char → Result (List (List String))
  | [] =>
    let (s, found) := if begun then s.endLine else (s, none)
    let last := if s.phase == .inQuotes then [(s.save .recordStart).fields.reverse] else []
    .ok (found.toList ++ last)
  | c :: cs => do
    let s ← s.read c
    if c == '\n' then
      let (s, found) := s.endLine
      return found.toList ++ (← scan s false cs)
    else scan s true cs

def records (text : String) : Result (List (List String)) := scan {} false text.toList

def surplusKey : String := "$none"

def row (header : List String) (fields : List String) : Value :=
  let cells := fields.map Value.text ++ List.replicate (header.length - fields.length) .null
  let named := Entries.merge [] (header.zip cells)
  let surplus := fields.drop header.length
  .object (if surplus.isEmpty then named else Entries.put named surplusKey (Value.texts surplus))

def rows (text : String) : Result (List Value) := do
  match ← records text with
  | [] => return []
  | header :: rest => return (rest.filter (!·.isEmpty)).map (row header)

def unifyLines : List Char → List Char
  | '\r' :: '\n' :: cs => '\n' :: unifyLines cs
  | '\r' :: cs => '\n' :: unifyLines cs
  | c :: cs => c :: unifyLines cs
  | [] => []

def unified (text : String) : String := String.ofList (unifyLines text.toList)

def fileRows (text : String) : Result (List Value) := rows (unified text)

def withoutMark (text : String) : String :=
  match text.toList with
  | '\uFEFF' :: cs => String.ofList cs
  | _ => text

end CloudSpend.Codec.Csv
