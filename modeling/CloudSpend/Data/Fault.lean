import CloudSpend.Data.Value

/-! # What can go wrong -/

namespace CloudSpend

open Text

inductive Fault where
  | missingKey (key : String)
  | missingEntry (key : String)
  | operands (op : String) (left right : Kind)
  | order (op : String) (left right : Kind)
  | concatenate (left right : Kind)
  | repetition (count : Kind)
  | notSubscriptable (kind : Kind)
  | textIndex (index : Kind)
  | listIndex (index : Kind)
  | rangeOfTable
  | notIterable (kind : Kind)
  | notContainer (kind : Kind)
  | unhashable (kind : Kind)
  | noLength (kind : Kind)
  | noRounding (kind : Kind)
  | noMagnitude (kind : Kind)
  | noFloat (kind : Kind)
  | noInt (kind : Kind)
  | noFormat (kind : Kind)
  | wrongKind (message : String)
  | noAttribute (kind : Kind) (name : String)
  | outsideText
  | outsideList
  | notFloat (text : String)
  | notInt (text : String)
  | tooManyDigits (digits : Nat)
  | notDate (text : String) (why : Date.Malformed)
  | nanToInt
  | infiniteToInt
  | placesOfText
  | refused (message : String)
  | intTooLarge
  | quotientTooLarge
  | roundedTooLarge
  | dateOutOfRange
  | spanTooLong (days : Int)
  | spanOverflow
  | storedIntTooLarge
  | notStorable (kind : Kind)
  | divisionByZero (float : Bool)
  | json (message : String)
  | tooDeep (kind : String)
  | tooNested
  | malformedAccount (message : String)
  | client (code operation reason : String)
  | httpStatus (message : String)
  | connection (message : String)
  | address (message : String)
  | runtime (message : String)
  | engine (message : String)
  | csv (message : String)
  | noFile (path : String)
  | isDirectory (path : String)
  | fileExists (path : String)
  | notDirectory (path : String)
  | nameTooLong (path : String)
  | sameFile (path : String)
  | notCompressed (start : List Nat)
  | undecodable (code : String) (byte position size : Nat) (why : String)
  | unencodable (code : String) (position size number : Nat) (why : String)
  | noRows
  | http (status : Nat) (detail : String)
  | validation (fields : List String)
  | integrity
  | circular
  | multipleRows
  | notInEnum (message : String)
  | exit (status : Nat)
  | keyInMessage
  | api (message : String) (status : Value) (detail : Value)
  deriving Inhabited

namespace Fault

inductive Category where
  | key | type | attribute | index | value | overflow | zeroDivision | json | malformed | client
  | httpStatus
  | connection | address | runtime | engine | csv | noFile | isDirectory | fileExists | notDirectory
  | system | sameFile | notCompressed | undecodable | unencodable | recursion | noRows | http | validation
  | integrity | notStorable | circular | multipleRows | lookup | exit | keyInMessage | api
  deriving Repr, DecidableEq

def category : Fault → Category
  | missingKey _ | missingEntry _ => .key
  | operands .. | order .. | concatenate .. | repetition _ | notSubscriptable _ | textIndex _
  | listIndex _ | rangeOfTable | notIterable _ | notContainer _ | unhashable _ | noLength _
  | noRounding _ | noMagnitude _ | noFloat _ | noInt _ | noFormat _ | wrongKind _ => .type
  | noAttribute .. => .attribute
  | outsideText | outsideList => .index
  | notFloat _ | notInt _ | tooManyDigits _ | notDate .. | nanToInt | placesOfText
  | refused _ => .value
  | infiniteToInt | intTooLarge | quotientTooLarge | roundedTooLarge | dateOutOfRange
  | spanTooLong _ | spanOverflow | storedIntTooLarge => .overflow
  | divisionByZero _ => .zeroDivision
  | json _ => .json
  | tooDeep _ | tooNested => .recursion
  | malformedAccount _ => .malformed
  | client .. => .client
  | httpStatus _ => .httpStatus
  | connection _ => .connection
  | address _ => .address
  | runtime _ => .runtime
  | engine _ => .engine
  | csv _ => .csv
  | noFile _ => .noFile
  | isDirectory _ => .isDirectory
  | fileExists _ => .fileExists
  | notDirectory _ => .notDirectory
  | nameTooLong _ => .system
  | sameFile _ => .sameFile
  | notCompressed _ => .notCompressed
  | undecodable .. => .undecodable
  | unencodable .. => .unencodable
  | noRows => .noRows
  | http .. => .http
  | validation _ => .validation
  | integrity => .integrity
  | notStorable _ => .notStorable
  | circular => .circular
  | multipleRows => .multipleRows
  | notInEnum _ => .lookup
  | exit _ => .exit
  | keyInMessage => .keyInMessage
  | api .. => .api

def dateMessage (text : String) : Date.Malformed → String
  | .shape => "Invalid isoformat string: " ++ quoted text
  | .year n => "year " ++ toString n ++ " is out of range"
  | .month => "month must be in 1..12"
  | .day => "day is out of range for month"

def message : Fault → String
  | missingKey key => quoted key
  | missingEntry key => key
  | operands op l r =>
    "unsupported operand type(s) for " ++ op ++ ": '" ++ l.name ++ "' and '" ++ r.name ++ "'"
  | order op l r =>
    "'" ++ op ++ "' not supported between instances of '" ++ l.name ++ "' and '" ++ r.name ++ "'"
  | concatenate l r =>
    "can only concatenate " ++ l.name ++ " (not \"" ++ r.name ++ "\") to " ++ l.name
  | repetition k => "can't multiply sequence by non-int of type '" ++ k.name ++ "'"
  | notSubscriptable k => "'" ++ k.name ++ "' object is not subscriptable"
  | textIndex k => "string indices must be integers, not '" ++ k.name ++ "'"
  | listIndex k => "list indices must be integers or slices, not " ++ k.name
  | rangeOfTable => "unhashable type: 'slice'"
  | notIterable k => "'" ++ k.name ++ "' object is not iterable"
  | notContainer k => "argument of type '" ++ k.name ++ "' is not iterable"
  | unhashable k => "unhashable type: '" ++ k.name ++ "'"
  | noLength k => "object of type '" ++ k.name ++ "' has no len()"
  | noRounding k => "type " ++ k.name ++ " doesn't define __round__ method"
  | noMagnitude k => "bad operand type for abs(): '" ++ k.name ++ "'"
  | noFloat k => "float() argument must be a string or a real number, not '" ++ k.name ++ "'"
  | noInt k =>
    "int() argument must be a string, a bytes-like object or a real number, not '" ++ k.name ++ "'"
  | noFormat k => "unsupported format string passed to " ++ k.name ++ ".__format__"
  | wrongKind m => m
  | noAttribute k name => "'" ++ k.name ++ "' object has no attribute '" ++ name ++ "'"
  | outsideText => "string index out of range"
  | outsideList => "list index out of range"
  | notFloat s => "could not convert string to float: " ++ quoted s
  | notInt s => "invalid literal for int() with base 10: "
      ++ String.ofList ((quoted s).toList.take 200)
  | tooManyDigits n => "Exceeds the limit (4300 digits) for integer string conversion: value has "
      ++ toString n ++ " digits; use sys.set_int_max_str_digits() to increase the limit"
  | notDate text why => dateMessage text why
  | nanToInt => "cannot convert float NaN to integer"
  | infiniteToInt => "cannot convert float infinity to integer"
  | placesOfText => "Unknown format code 'f' for object of type 'str'"
  | refused m => m
  | intTooLarge => "int too large to convert to float"
  | quotientTooLarge => "integer division result too large for a float"
  | roundedTooLarge => "rounded value too large to represent"
  | dateOutOfRange => "date value out of range"
  | spanTooLong n => "days=" ++ toString n ++ "; must have magnitude <= 999999999"
  | spanOverflow => "Python int too large to convert to C int"
  | storedIntTooLarge => "Python int too large to convert to SQLite INTEGER"
  | notStorable kind => "type '" ++ kind.name ++ "' is not supported"
  | divisionByZero float => if float then "float division by zero" else "division by zero"
  | json m => m
  | tooDeep kind => "maximum recursion depth exceeded while decoding a JSON " ++ kind
      ++ " from a unicode string"
  | tooNested => "maximum recursion depth exceeded"
  | malformedAccount m => m
  | client code operation reason => "An error occurred (" ++ code ++ ") when calling the "
      ++ operation ++ " operation: " ++ reason
  | httpStatus m => m
  | connection m => m
  | address m => m
  | runtime m => m
  | engine m => m
  | csv m => m
  | noFile path => "[Errno 2] No such file or directory: " ++ quoted path
  | isDirectory path => "[Errno 21] Is a directory: " ++ quoted path
  | fileExists path => "[Errno 17] File exists: " ++ quoted path
  | notDirectory path => "[Errno 20] Not a directory: " ++ quoted path
  | nameTooLong path => "[Errno 36] File name too long: " ++ quoted path
  | sameFile path =>
    let file := "PosixPath(" ++ quoted path ++ ")"
    file ++ " and " ++ file ++ " are the same file"
  | notCompressed start => "Not a gzipped file (" ++ quotedBytes start ++ ")"
  | undecodable code byte position size why =>
    "'" ++ code ++ "' codec can't decode byte" ++ (if size == 1 then
        " 0x" ++ String.ofList (hex 2 byte) ++ " in position " ++ toString position
      else "s in position " ++ toString position ++ "-" ++ toString (position + size - 1))
      ++ ": " ++ why
  | unencodable code position size number why =>
    "'" ++ code ++ "' codec can't encode character" ++ (if size == 1 then
        " '" ++ String.ofList (numbered number) ++ "' in position " ++ toString position
      else "s in position " ++ toString position ++ "-" ++ toString (position + size - 1))
      ++ ": " ++ why
  | noRows => ""
  | http status detail => toString status ++ ": " ++ detail
  | validation fields => ", ".intercalate fields
  | integrity => ""
  | circular => ""
  | multipleRows => ""
  | notInEnum m => m
  | exit status => toString status
  | keyInMessage => ""
  | api m _ _ => m

end Fault

abbrev Result (α : Type) := Except Fault α

def Text.bytes (s : String) : Result (List Nat) :=
  match halves? s with
  | some (position, size, unit) =>
    .error (.unencodable "utf-8" position size unit "surrogates not allowed")
  | none => .ok (s.toUTF8.toList.map UInt8.toNat)

def Text.requireAscii (s : String) : Result Unit :=
  let cs := s.toList
  let before := cs.takeWhile fun c => c.toNat < 128
  let run := (cs.drop before.length).takeWhile fun c => 128 ≤ c.toNat
  match run with
  | [] => .ok ()
  | c :: _ => .error (.unencodable "ascii" before.length run.length ((half? c).getD c.toNat)
      "ordinal not in range(128)")

end CloudSpend
