import CloudSpend.Data.Fault
import CloudSpend.Text.Search

/-! # Paths and files -/

namespace CloudSpend.Storage

structure Path where
  root : String
  parts : List String
  deriving Repr, DecidableEq, Inhabited

namespace Path

def rootOf (s : String) : String :=
  match s.toList.takeWhile (· == '/') with
  | [] => ""
  | ['/', '/'] => "//"
  | _ => "/"

def ofText (s : String) : Path :=
  ⟨rootOf s, (Text.split s "/").filter fun p => p != "" && p != "."⟩

def text (p : Path) : String :=
  if p.root.isEmpty && p.parts.isEmpty then "." else p.root ++ "/".intercalate p.parts

def join (p : Path) (q : String) : Path :=
  let q := ofText q
  if q.root.isEmpty then ⟨p.root, p.parts ++ q.parts⟩ else q

def parent (p : Path) : Path := { p with parts := p.parts.dropLast }

def name (p : Path) : String := p.parts.getLastD ""

def splitName (name : String) : String × String :=
  let ext := (name.toList.reverse.takeWhile (· != '.')).reverse
  let stem := name.toList.take (name.length - ext.length - 1)
  if ext.length == name.length || ext.isEmpty || stem.isEmpty then (name, "")
  else (String.ofList stem, "." ++ String.ofList ext)

def stem (p : Path) : String := (splitName p.name).1

def suffix (p : Path) : String := (splitName p.name).2

end Path

/-! ## Files -/

def Path.ofValue (v : Value) : Result Path :=
  match v with
  | .text s => .ok (ofText s)
  | v => .error (.wrongKind ("expected str, bytes or os.PathLike object, not " ++ v.kind.name))

inductive Content where
  | text (s : String)
  | compressed (s : String)
  | table (columns : List (String × List Value))
  | directory
  deriving Inhabited

abbrev Files := List (List String × Content)

namespace Files

def isDirectory (fs : Files) (place : List String) : Bool :=
  place.isEmpty || place == ["/"] || fs.any fun f =>
    (f.1 == place && (match f.2 with | .directory => true | _ => false))
      || (place.isPrefixOf f.1 && f.1 != place)

def get? (fs : Files) (place : List String) : Option Content :=
  match Entries.get? fs place with
  | some c => some c
  | none => if isDirectory fs place then some .directory else none

def exist (fs : Files) (place : List String) : Bool := (fs.get? place).isSome

def names (fs : Files) (place : List String) : List String :=
  ((fs.filterMap fun f =>
    if place.isPrefixOf f.1 then (f.1.drop place.length).head? else none).filter (· != "/")).eraseDups

def withEnding (fs : Files) (place : List String) (ending : String) : List String :=
  (fs.names place).filter fun n => Text.endsWith n ending

inductive Obstacle where
  | missing
  | file
  | tooLong
  | malformed (why : Fault)

def maxName : Nat := 255

def maxPath : Nat := 4096

def step (fs : Files) (place : List String) (name : String) : Except Obstacle (List String) :=
  if !fs.isDirectory place then .error (if fs.exist place then .file else .missing)
  else if maxName < name.utf8ByteSize then .error .tooLong
  else if name == ".." then .ok (if place == ["/"] then place else place.dropLast)
  else .ok (place ++ [name])

def locate (fs : Files) (p : Path) : Except Obstacle (List String) :=
  match Text.bytes p.text with
  | .error e => .error (.malformed e)
  | .ok bytes =>
    if bytes.contains 0 then .error (.malformed (.refused "embedded null byte"))
    else if maxPath ≤ bytes.length then .error .tooLong
    else p.parts.foldlM fs.step (if p.root.isEmpty then [] else ["/"])

def Obstacle.fault (name : String) : Obstacle → Fault
  | .missing => .noFile name
  | .file => .notDirectory name
  | .tooLong => .nameTooLong name
  | .malformed e => e

def at? (fs : Files) (p : Path) : Option Content := (fs.locate p).toOption.bind fs.get?

def look (fs : Files) (p : Path) : Result (Option Content) :=
  match fs.locate p with
  | .ok place => .ok (fs.get? place)
  | .error .tooLong => .error (.nameTooLong p.text)
  | .error _ => .ok none

def put (fs : Files) (place : List String) (c : Content) : Files := Entries.put fs place c

def putAt (fs : Files) (p : Path) (c : Content) : Files :=
  match fs.locate p with
  | .ok place => fs.put place c
  | .error _ => fs

def makeOne (fs : Files) (p : Path) : Except Obstacle (Result Files) :=
  match fs.locate p with
  | .error o => .error o
  | .ok place => match fs.get? place with
    | some .directory => .ok (.ok fs)
    | some _ => .ok (.error (.fileExists p.text))
    | none => .ok (.ok (fs.put place .directory))

def makeDirectories : Nat → Files → Path → Files × Result Unit
  | 0, fs, _ => (fs, .ok ())
  | bound + 1, fs, p =>
    match fs.makeOne p with
    | .ok (.ok fs) => (fs, .ok ())
    | .ok (.error e) => (fs, .error e)
    | .error .missing =>
      let (fs, made) := makeDirectories bound fs p.parent
      match made with
      | .error e => (fs, .error e)
      | .ok _ => match fs.makeOne p with
        | .ok (.ok fs) => (fs, .ok ())
        | .ok (.error e) => (fs, .error e)
        | .error o => (fs, .error (o.fault p.text))
    | .error o => (fs, .error (o.fault p.text))

end Files

end CloudSpend.Storage
