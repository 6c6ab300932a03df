import CloudSpend.Calendar.Date
import CloudSpend.Numeral.Shortest
import CloudSpend.Text.Encoding

/-! # Values of billing data -/

namespace CloudSpend

inductive Kind where
  | null | bool | int | float | text | list | object | date | timestamp
  deriving Repr, DecidableEq

def Kind.name : Kind → String
  | .null => "NoneType"
  | .bool => "bool"
  | .int => "int"
  | .float => "float"
  | .text => "str"
  | .list => "list"
  | .object => "dict"
  | .date => "datetime.date"
  | .timestamp => "datetime.datetime"

inductive Value where
  | null
  | bool (b : Bool)
  | int (n : Int)
  | float (x : Float)
  | text (s : String)
  | list (items : List Value)
  | object (entries : List (String × Value))
  | date (d : Date)
  | timestamp (t : Timestamp)
  deriving Inhabited, Repr

abbrev Row := List (String × Value)

namespace Entries

variable {κ α : Type} [BEq κ]

def get? (entries : List (κ × α)) (key : κ) : Option α := entries.lookup key

def has (entries : List (κ × α)) (key : κ) : Bool := entries.any fun e => e.1 == key

def put : List (κ × α) → κ → α → List (κ × α)
  | [], key, a => [(key, a)]
  | e :: rest, key, a => if e.1 == key then (e.1, a) :: rest else e :: put rest key a

def alter (entries : List (κ × α)) (key : κ) (start : α) (f : α → α) : List (κ × α) :=
  put entries key (f ((get? entries key).getD start))

def erase (entries : List (κ × α)) (key : κ) : List (κ × α) := entries.filter fun e => e.1 != key

def merge (old new : List (κ × α)) : List (κ × α) :=
  new.foldl (fun es e => put es e.1 e.2) old

end Entries

namespace Value

instance : Coe String Value := ⟨.text⟩
instance : Coe Bool Value := ⟨.bool⟩
instance : Coe Float Value := ⟨.float⟩
instance : Coe Int Value := ⟨.int⟩
instance : Coe Nat Value := ⟨fun n => .int n⟩

def ofText? : Option String → Value
  | some s => .text s
  | none => .null

def texts (ss : List String) : Value := .list (ss.map .text)

def kind : Value → Kind
  | .null => .null
  | .bool _ => .bool
  | .int _ => .int
  | .float _ => .float
  | .text _ => .text
  | .list _ => .list
  | .object _ => .object
  | .date _ => .date
  | .timestamp _ => .timestamp

def truthy : Value → Bool
  | .null => false
  | .bool b => b
  | .int n => n != 0
  | .float x => x != 0
  | .text s => !s.isEmpty
  | .list items => !items.isEmpty
  | .object entries => !entries.isEmpty
  | .date _ => true
  | .timestamp _ => true

def isNull : Value → Bool
  | .null => true
  | _ => false

def int? : Value → Option Int
  | .int n => some n
  | .bool b => some (if b then 1 else 0)
  | _ => none

def text? : Value → Option String
  | .text s => some s
  | _ => none

def object? : Value → Option Row
  | .object entries => some entries
  | _ => none

def list? : Value → Option (List Value)
  | .list items => some items
  | _ => none

def orElse (a b : Value) : Value := if a.truthy then a else b

mutual

def literal : Value → String
  | .null => "None"
  | .bool b => if b then "True" else "False"
  | .int n => toString n
  | .float x => Numeral.text x
  | .text s => Text.quoted s
  | .list items => "[" ++ literalItems items ++ "]"
  | .object entries => "\x7b" ++ literalEntries entries ++ "\x7d"
  | .date d => "datetime.date(" ++ toString d.year ++ ", " ++ toString d.month ++ ", "
      ++ toString d.day ++ ")"
  | .timestamp t => "datetime.datetime(" ++ toString t.date.year ++ ", " ++ toString t.date.month
      ++ ", " ++ toString t.date.day ++ ", " ++ toString t.hour ++ ", " ++ toString t.minute
      ++ (if t.second == 0 && t.micro == 0 then "" else ", " ++ toString t.second)
      ++ (if t.micro == 0 then "" else ", " ++ toString t.micro)
      ++ (if t.offset.isSome then ", tzinfo=datetime.timezone.utc" else "") ++ ")"

def literalItems : List Value → String
  | [] => ""
  | [v] => literal v
  | v :: rest => literal v ++ ", " ++ literalItems rest

def literalEntries : List (String × Value) → String
  | [] => ""
  | [(k, v)] => Text.quoted k ++ ": " ++ literal v
  | (k, v) :: rest => Text.quoted k ++ ": " ++ literal v ++ ", " ++ literalEntries rest

end

def display : Value → String
  | .text s => s
  | .date d => d.text
  | .timestamp t => t.spacedText
  | v => v.literal

def sameNumber : Value → Value → Bool
  | .float x, .float y => x == y
  | .float x, v => match v.int? with
    | some n => Numeral.compareInt? n x == some .eq
    | none => false
  | v, .float x => match v.int? with
    | some n => Numeral.compareInt? n x == some .eq
    | none => false
  | v, w => match v.int?, w.int? with
    | some m, some n => m == n
    | _, _ => false

mutual

def same : Value → Value → Bool
  | .null, .null => true
  | .text s, .text t => s == t
  | .list xs, .list ys => sameItems xs ys
  | .object xs, .object ys => xs.length == ys.length && sameEntries xs ys
  | .date d, .date e => d == e
  | .timestamp t, .timestamp u =>
    t.offset.isSome == u.offset.isSome && t.micros == u.micros
  | v, w => sameNumber v w

def sameItems : List Value → List Value → Bool
  | [], [] => true
  | v :: vs, w :: ws => same v w && sameItems vs ws
  | _, _ => false

def sameEntries : List (String × Value) → List (String × Value) → Bool
  | [], _ => true
  | (k, v) :: rest, ys =>
    (match ys.lookup k with
      | some w => same v w
      | none => false) && sameEntries rest ys

end

instance : BEq Value := ⟨same⟩

end Value

end CloudSpend
