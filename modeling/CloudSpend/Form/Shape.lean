import CloudSpend.Form.MailAddress
import CloudSpend.Form.Reading

/-! # Shapes of requests and answers -/

namespace CloudSpend.Form

structure Bounds where
  above : Option Float := none
  least : Option Float := none
  most : Option Float := none

def Bounds.admit (b : Bounds) (x : Float) : Bool :=
  (b.above.all fun y => !(x ≤ y)) && (b.least.all fun y => !(x < y))
    && (b.most.all fun y => !(y < x))

inductive Shape where
  | any
  | text (least : Nat) (most : Option Nat)
  | matching (accepts : String → Bool)
  | word (words : List String)
  | address
  | bool
  | int (least most : Option Int)
  | number (bounds : Bounds)
  | date
  | timestamp
  | identifier
  | table
  | list (item : Shape)
  | optional (inner : Shape)
  | record (fields : List (String × Shape × Option Value))

abbrev Place := List String

abbrev Checked := Except (List Place) Value

def Shape.anyText : Shape := .text 0 none

def need {α : Type} (f : α → Value) : Option α → Checked
  | some a => .ok (f a)
  | none => .error [[]]

def both {α β γ : Type} (f : α → β → γ) :
    Except (List Place) α → Except (List Place) β → Except (List Place) γ
  | .ok a, .ok b => .ok (f a b)
  | .ok _, .error e => .error e
  | .error e, .ok _ => .error e
  | .error e, .error e' => .error (e ++ e')

def inside {α : Type} (key : String) : Except (List Place) α → Except (List Place) α
  | .ok a => .ok a
  | .error places => .error (places.map (key :: ·))

def eachItem (f : Value → Checked) : Nat → List Value → Except (List Place) (List Value)
  | _, [] => .ok []
  | i, v :: rest => both List.cons (inside (toString i) (f v)) (eachItem f (i + 1) rest)

def placeNames (places : List Place) : List String :=
  ((places.map (".".intercalate ·)).mergeSort (fun a b => !(b < a))).eraseDups

namespace Shape

mutual

def check : Shape → Value → Checked
  | any, v => .ok v
  | text least most, .text s =>
    if least ≤ s.length && most.all (s.length ≤ ·) && (Text.halves? s).isNone then .ok (.text s)
    else .error [[]]
  | matching accepts, .text s =>
    if accepts s && (Text.halves? s).isNone then .ok (.text s) else .error [[]]
  | word words, .text s => if words.contains s then .ok (.text s) else .error [[]]
  | address, .text s => need .text (address? s)
  | bool, v => need .bool (bool? v)
  | int least most, v =>
    need .int ((int? v).filter fun n => least.all (· ≤ n) && most.all (n ≤ ·))
  | number bounds, v => need .float ((number? v).filter bounds.admit)
  | date, v => need .date (date? v)
  | timestamp, v => need .timestamp (timestamp? v)
  | identifier, v => need .text (identifier? v)
  | table, .object es => .ok (.object es)
  | list item, .list xs => (eachItem (check item) 0 xs).map .list
  | optional inner, v => if v.isNull then .ok .null else check inner v
  | record fields, .object es => (checkFields fields es).map .object
  | _, _ => .error [[]]

def checkFields : List (String × Shape × Option Value) → Row → Except (List Place) Row
  | [], _ => .ok []
  | (name, shape, default) :: rest, es =>
    let first : Checked := match Entries.get? es name, default with
      | some v, _ => check shape v
      | none, some d => .ok d
      | none, none => .error [[]]
    both (fun v row => (name, v) :: row) (inside name first) (checkFields rest es)

end

def validate (s : Shape) (v : Value) : Result Value :=
  (s.check v).mapError fun places => .validation (placeNames places)

end Shape

abbrev Field := String × Shape × Option Value

def required (name : String) (shape : Shape) : Field := (name, shape, none)

def withDefault (name : String) (shape : Shape) (default : Value) : Field :=
  (name, shape, some default)

def maybe (name : String) (shape : Shape) : Field := (name, .optional shape, some .null)

end CloudSpend.Form
