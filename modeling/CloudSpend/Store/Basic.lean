import CloudSpend.Form.Reading
import CloudSpend.Store.Schema

/-! # The store and its cells -/

namespace CloudSpend.Store

def cell (row : Row) (column : String) : Value := (Entries.get? row column).getD .null

def textCell (row : Row) (column : String) : String := ((cell row column).text?).getD ""

def holds (column : String) (v : Value) (row : Row) : Bool := (cell row column).same v

def identifier (n : Nat) : String := Form.groupIdentifier (Text.hex 32 n)

def Words.find? (w : Words) (s : String) : Option String :=
  w.members.find? fun m => m == s || m.toUpper == s

def Words.sample (w : Words) : String :=
  let short (s : String) : String := if 11 < s.length then Text.take 11 s ++ ".." else s
  let names := w.members.map fun m => short m.toUpper
  if names.length ≤ 4 then ", ".intercalate names
  else ", ".intercalate (names.take 3 ++ ["..."] ++ names.getLast?.toList)

def Words.fault (w : Words) (s : String) : Fault :=
  .notInEnum ("'" ++ s ++ "' is not among the defined enum values. Enum name: " ++ w.name
    ++ ". Possible values: " ++ w.sample)

def numeral? (s : String) : Option Float :=
  let ok (c : Char) : Bool := c.isDigit || Numeral.isAsciiBlank c || "+-.eE".toList.contains c
  if s.toList.all ok then Numeral.readFloat? s else none

def realCell (x : Float) : Value := if x.isNaN then .null else .float (if x == 0 then 0 else x)

def isStored (n : Int) : Bool := -9223372036854775808 ≤ n && n ≤ 9223372036854775807

def wholeCell (x : Float) : Value :=
  match Numeral.truncate x with
  | .ok n => if isStored n && Value.sameNumber (.int n) (.float x) then .int n else realCell x
  | .error _ => realCell x

def CellKind.canHold : CellKind → Value → Bool
  | .document, _ => true
  | _, .list _ => false
  | _, .object _ => false
  | _, _ => true

def CellKind.normal (k : CellKind) (v : Value) : Value :=
  match k, v with
  | .text, .int n => .text (toString n)
  | .text, .bool b => .text (if b then "1" else "0")
  | .text, .float x => Value.ofText? (Numeral.columnText? x)
  | .text, .date d => .text d.text
  | .text, .timestamp t => .text (Value.timestamp t).display
  | .identifier, .int n => .text (Store.identifier n.toNat)
  | .number, .float x => realCell x
  | .number, .text s => ((numeral? s).map realCell).getD v
  | .number, v => match v.int? with
    | some n => ((Value.intToFloat n).toOption.map Value.float).getD v
    | none => v
  | .integer, .float x => wholeCell x
  | .integer, .text s => ((numeral? s).map wholeCell).getD v
  | .flag, .int 0 => .bool false
  | .flag, .int 1 => .bool true
  | .day, .timestamp t => .date t.date
  | .moment, .timestamp t => .timestamp { t with offset := none }
  | .word w, .text s => .text ((w.find? s).getD s)
  | _, v => v

end CloudSpend.Store

/-! ## The store -/

namespace CloudSpend

structure Store.Entry where
  table : Store.Table
  row : Row

abbrev Store := List Store.Entry

namespace Store

def rows (s : Store) (t : Table) : List Row := (s.filter fun e => e.table == t).map (·.row)

def select (s : Store) (t : Table) (test : Row → Bool) : List Row := (s.rows t).filter test

def Table.stated (t : Table) (given : Row) : Row :=
  given.filter fun e => !e.2.isNull
    || t.columns.any fun c => c.name == e.1 && c.kind == .document

def Table.fill (t : Table) (now : Timestamp) (id : String) (given : Row) : Row :=
  t.columns.map fun c => (c.name, match Entries.get? given c.name with
    | some v => c.kind.normal v
    | none => match c.filler with
      | .nothing => .null
      | .value v => v
      | .now => .timestamp now
      | .nextId => .text id)

def Table.misfit? (t : Table) (row : Row) : Option Fault :=
  t.columns.findSome? fun c =>
    let v := cell row c.name
    if c.kind.canHold v then none else some (.notStorable v.kind)

def Table.takesId (t : Table) (given : Row) : Bool :=
  t.columns.any fun c => match c.filler with
    | .nextId => !Entries.has given c.name
    | _ => false

def has (s : Store) (t : Table) (id : Value) : Bool := (s.rows t).any (holds "id" id)

def Column.admits (c : Column) (s : Store) (v : Value) : Bool :=
  if v.isNull then !c.required else c.target.all fun t => s.has t v

def Entry.admitted (s : Store) (e : Entry) : Bool :=
  e.table.columns.all fun c => c.admits s (cell e.row c.name)

def apart : List (List Value) → Bool
  | [] => true
  | k :: rest => !(rest.any (Value.sameItems k)) && apart rest

def hasKey (s : Store) (t : Table) (key : List String) : Bool :=
  apart ((s.rows t).map fun row => key.map (cell row))

def sound (s : Store) : Bool :=
  (s.all fun e => e.admitted s) && Table.all.all fun t => t.keys.all (s.hasKey t)

def checked (s : Store) : Result Store := if s.sound then .ok s else .error .integrity

def Table.strangeWord? (t : Table) (row : Row) : Option Fault :=
  t.columns.findSome? fun c => match c.kind, cell row c.name with
    | .word w, .text s => if w.members.contains s then none else some (w.fault s)
    | _, _ => none

def Table.readable (t : Table) (rows : List Row) : Result (List Row) :=
  match rows.findSome? t.strangeWord? with
  | some f => .error f
  | none => .ok rows

def insert (s : Store) (t : Table) (row : Row) : Result Store := checked (s ++ [⟨t, row⟩])

def Table.revise (t : Table) (now : Timestamp) (changes : Row) (row : Row) : Row :=
  if changes.all fun e => (cell row e.1).same e.2 then row
  else row.map fun e => match t.columns.find? fun c => c.name == e.1 with
    | some c => match Entries.get? changes e.1 with
      | some v => (e.1, c.kind.normal v)
      | none => if c.stamped then (e.1, .timestamp now) else e
    | none => e

def reviseWhere (s : Store) (t : Table) (test : Row → Bool) (now : Timestamp) (changes : Row) :
    Store :=
  s.map fun e => if e.table == t && test e.row then { e with row := t.revise now changes e.row }
    else e

def update (s : Store) (t : Table) (id : Value) (now : Timestamp) (changes : Row) :
    Result Store :=
  checked (s.reviseWhere t (holds "id" id) now changes)

def Entry.refersBy (e : Entry) (rs : List Reference) (id : Value) : Bool :=
  rs.any fun r => r.table == e.table && holds r.column id e.row

def Entry.goesWith (e : Entry) (t : Table) (id : Value) : Bool :=
  (e.table == t && holds "id" id e.row) || e.refersBy t.owned id

def release (s : Store) (now : Timestamp) (gone : Entry) : Store :=
  gone.table.released.foldl (fun s r =>
    s.reviseWhere r.table (holds r.column (cell gone.row "id")) now [(r.column, .null)]) s

def Entry.parents (e : Entry) : List Value :=
  (e.table.columns.filter fun c => c.target == some e.table).map fun c => cell e.row c.name

def inTurn : Nat → List Entry → Bool
  | 0, es => es.isEmpty
  | fuel + 1, es =>
    let left := es.filter fun e => es.any fun d =>
      d.table == e.table && d.parents.any (·.same (cell e.row "id"))
    es.isEmpty || (left.length < es.length && inTurn fuel left)

def delete (s : Store) (t : Table) (id : Value) (now : Timestamp) : Result Store := do
  let gone := s.filter fun e => e.goesWith t id
  if let some fault := gone.findSome? fun e => e.table.strangeWord? e.row then throw fault
  if !inTurn gone.length gone then throw .circular
  checked (gone.foldl (fun s e => s.release now e) (s.filter fun e => !e.goesWith t id))

def clear (s : Store) (t : Table) (test : Row → Bool) : Result Store :=
  checked (s.filter fun e => !(e.table == t && test e.row))

end Store

end CloudSpend
