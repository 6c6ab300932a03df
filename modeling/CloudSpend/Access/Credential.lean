import CloudSpend.Calendar.Days
import CloudSpend.Codec.Base64
import CloudSpend.Codec.Sha256
import CloudSpend.Data.Access
import CloudSpend.Data.Json

/-! # Credentials -/

namespace CloudSpend.Access

def tokenOf (kind : String) (bytes id : Nat) : String :=
  kind ++ "_" ++ String.ofList (Text.hex (2 * bytes) id)

def resourceToken (kind : String) (id : Nat) : String := tokenOf kind 16 id

namespace ApiToken

def kinds : List String := ["cpat", "cpst"]

def hash (token : String) : String := Codec.Sha256.ofText token

def hashOf (token : Value) : Result String :=
  match token with
  | .text s => (Text.bytes s).map fun _ => hash s
  | v => .error (.noAttribute v.kind "encode")

def ofId (kind : String) (id : Nat) : String := tokenOf kind 32 id

def isOne (credential : String) : Bool :=
  kinds.any fun k => (k ++ "_").toList.isPrefixOf credential.toList

end ApiToken

end CloudSpend.Access

/-! ## Passwords -/

namespace CloudSpend.Access.Password

def mark : String := "$sha256$"

def sealOf (password : String) : String := mark ++ Codec.Sha256.ofText password

def opens (password sealed : String) : Result Bool :=
  if Text.startsWith sealed mark then .ok (sealed == sealOf password)
  else .error (.refused "Invalid salt")

end CloudSpend.Access.Password

/-! ## Session tokens -/

namespace CloudSpend.Access.Session

def secret : String := "change-me-jwt-secret-key"

def algorithm : String := "HS256"

def lifetime : Int := 86400000000

def part (s : String) : String := Codec.Base64.encode Codec.Base64.forUrls s

def signature (signed : String) : List UInt8 :=
  Codec.Sha256.authenticate secret.toUTF8.toList signed.toUTF8.toList

def ofClaims (claims : Row) : String :=
  let header : Value := .object [("alg", .text algorithm), ("typ", "JWT")]
  let signed := part (Json.writeIn .compact header) ++ "."
    ++ part (Json.writeIn .compact (.object claims))
  signed ++ "." ++ String.ofList
    (Codec.Base64.encodeBytes Codec.Base64.forUrls ((signature signed).map UInt8.toNat))

def create (now : Timestamp) (user email : Value) : Result String := do
  let expiry ← now.moved lifetime
  discard (Json.encode email)
  return ofClaims [("sub", .text user.display), ("email", email), ("exp", .int expiry.epochSeconds)]

def parts? (token : String) : Option (String × String × String × String) :=
  let pieces := Text.split token "."
  match pieces.getLast?, pieces.dropLast with
  | some last, header :: claim :: more =>
    let claims := ".".intercalate (claim :: more)
    some (header ++ "." ++ claims, header, claims, last)
  | _, _ => none

def bytes? (part : String) : Option (List UInt8) :=
  let signs := part.toUTF8.toList.map fun b => Char.ofNat b.toNat
  (Codec.Base64.decode? Codec.Base64.forUrls signs).map (List.map UInt8.ofNat)

def table? (bytes : List UInt8) : Result (Option Row) :=
  match String.fromUTF8? ⟨bytes.toArray⟩ with
  | none => .ok none
  | some text => match Json.read text with
    | .ok (.object es) => .ok (some es)
    | .ok _ => .ok none
    | .error e => if e.category == .recursion then .error e else .ok none

def number? (v : Value) : Result (Option Int) :=
  match v.toInt with
  | .ok n => .ok (some n)
  | .error e => if e.category == .value then .ok none else .error e

def checkNumber (claims : Row) (key : String) (test : Int → Bool) : Result Bool := do
  match Entries.get? claims key with
  | none => return true
  | some v => return ((← number? v).map test).getD false

def isTextOrAbsent (claims : Row) (key : String) : Bool :=
  match Entries.get? claims key with
  | none | some (.text _) => true
  | _ => false

def inOrder (now : Int) (claims : Row) : Result Bool := do
  if !(← checkNumber claims "iat" fun _ => true) then return false
  if !(← checkNumber claims "nbf" (· ≤ now)) then return false
  if !(← checkNumber claims "exp" (now ≤ ·)) then return false
  return !Entries.has claims "aud" && isTextOrAbsent claims "sub" && isTextOrAbsent claims "jti"
    && !Entries.has claims "at_hash"

def signedClaims? (token : String) : Result (Option (List UInt8)) := do
  let some (signed, header, claims, sign) := parts? token | return none
  let some header := bytes? header | return none
  let some header ← table? header | return none
  let some claims := bytes? claims | return none
  if (Entries.get? header "alg").any (·.same (.text algorithm))
    && bytes? sign == some (signature signed) then return some claims
  return none

def claims? (now : Timestamp) (token : String) : Result (Option Row) := do
  discard (Text.bytes token)
  let some bytes ← signedClaims? token | return none
  let some claims ← table? bytes | return none
  return if ← inOrder now.epochSeconds claims then some claims else none

def claimsOf? (now : Timestamp) (token : Value) : Result (Option Row) := do
  claims? now (← token.expectText "rsplit")

end CloudSpend.Access.Session
