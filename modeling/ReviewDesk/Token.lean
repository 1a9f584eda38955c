import ReviewDesk.Account
import ReviewDesk.Digest.Base64
import ReviewDesk.Digest.Sha256
import ReviewDesk.Json.Bytes
import ReviewDesk.Json.Display
import ReviewDesk.Text.Digit

/-!
Bearer tokens: a header, claims and a keyed hash of both, each as base64 text between dots. A token
names one account and is good until it expires.
-/
namespace ReviewDesk.Token

inductive Fault where
  | expired
  | invalid
  /-- A time that is no number at all, with the name of what it is instead. -/
  | notNumber (kind : String)
  | infiniteTime
  /-- A time of expiry that is a number only as text. -/
  | textExpiry
  | yearOutOfRange (year : Int)
  | calendarOverflow
  | timestampOverflow
  | dateOverflow
  | lifetimeOverflow (days : Int)
  deriving Repr, DecidableEq

def Fault.message : Fault → String
  | expired => "Token has expired."
  | invalid => "Invalid token."
  | notNumber kind =>
    s!"int() argument must be a string, a bytes-like object or a real number, not '{kind}'"
  | infiniteTime => "cannot convert float infinity to integer"
  | textExpiry => "'str' object cannot be interpreted as an integer"
  | yearOutOfRange year => s!"year {year} is out of range"
  | calendarOverflow => "[Errno 75] Value too large for defined data type"
  | timestampOverflow => "timestamp out of range for platform time_t"
  | dateOverflow => "date value out of range"
  | lifetimeOverflow days =>
    if -0x80000000 ≤ days && days < 0x80000000 then s!"days={days}; must have magnitude <= 999999999"
    else "Python int too large to convert to C int"

structure Claims where
  userId : Uuid
  username : String
  email : String
  expiresAt : Moment
  deriving Repr, DecidableEq

def segment (v : Json) : String := Digest.encode64 (Text.utf8Bytes (Json.write .compact v))

/-- The hash of the two first parts of a token. -/
def signature (secret signed : String) : List UInt8 :=
  Digest.hmac (Text.utf8Bytes secret) (Text.utf8Bytes signed)

def header : Json := .obj [("alg", .str "HS256"), ("typ", .str "JWT")]

/-- The token of a header and claims. -/
def sign (secret : String) (header claims : Json) : String :=
  let signed := segment header ++ "." ++ segment claims
  signed ++ "." ++ Digest.encode64 (signature secret signed)

def claimsOf (a : Account) (issued expires : Int) : Json :=
  .obj [("sub", .str a.username), ("userId", .str a.id.text), ("email", .str a.email),
    ("iat", .int issued), ("exp", .int expires)]

/-- A token for an account that is good for so many seconds. -/
def issue (secret : String) (lifetime : Int) (now : Moment) (a : Account) :
    Except Fault String :=
  let days := lifetime.fdiv 86400
  let expires := now.addMicroseconds (lifetime * Moment.second)
  if days < -999999999 || 999999999 < days then .error (.lifetimeOverflow days)
  else if !expires.inRange then .error .dateOverflow
  else .ok (sign secret header (claimsOf a now.wholeSeconds expires.wholeSeconds))

/-- A value as a whole number, its fraction dropped. -/
def wholeOf : Json → Except Fault Int
  | .int n => .ok n
  | .bool b => .ok (if b then 1 else 0)
  | .real x =>
    match Decimal.wholePart? x with
    | some n => .ok n
    | none => .error (if x.isNaN then .invalid else .infiniteTime)
  | .str s =>
    match Text.wholeNumber? s with
    | some n => .ok n
    | none => .error .invalid
  | .null => .error (.notNumber "NoneType")
  | .arr _ => .error (.notNumber "list")
  | .obj _ => .error (.notNumber "dict")

/-- The critical extensions of a header must all be known and present. -/
def criticalOk (fields : List (String × Json)) : Bool :=
  match Json.lookup? fields "crit" with
  | none => true
  | some (.arr items) =>
    !items.isEmpty && items.all fun v => match v with
      | .str s => s == "b64" && (Json.lookup? fields "b64").isSome
      | _ => false
  | some _ => false

/-- Whether a header asks for the one algorithm that is allowed, and for nothing unknown. -/
def headerOk (fields : List (String × Json)) : Bool :=
  (match Json.lookup? fields "alg" with
    | some (.str alg) => alg == "HS256"
    | _ => false) &&
  (match Json.lookup? fields "kid" with
    | none => true
    | some (.str _) => true
    | some _ => false) &&
  (match Json.lookup? fields "b64" with
    | some (.bool false) => false
    | _ => true) &&
  criticalOk fields

def objectOf (bytes : List UInt8) : Except Fault (List (String × Json)) :=
  match Json.parseBytes bytes with
  | .ok (.obj fields) => .ok fields
  | _ => .error .invalid

/-- A token taken apart: what is signed, the header, the claims and the hash. -/
structure Parts where
  signed : String
  header : String
  claims : String
  hash : String

/-- The hash is behind the last dot and the header in front of the first. -/
def split (token : String) : Option Parts :=
  match (token.toList.splitOn '.').map String.ofList with
  | header :: rest =>
    match rest.reverse with
    | hash :: middle@(_ :: _) =>
      let claims := ".".intercalate middle.reverse
      some ⟨header ++ "." ++ claims, header, claims, hash⟩
    | _ => none
  | [] => none

def bytesOf (text : String) : Except Fault (List UInt8) :=
  match Digest.decode64? text with
  | some bytes => .ok bytes
  | none => .error .invalid

/-- The claims of a token whose hash is right. -/
def openClaims (secret token : String) : Except Fault (List (String × Json)) := do
  let some parts := split token | throw .invalid
  let header ← objectOf (← bytesOf parts.header)
  let claims ← bytesOf parts.claims
  let hash ← bytesOf parts.hash
  if !headerOk header then throw .invalid
  if hash != signature secret parts.signed then throw .invalid
  objectOf claims

def isMissing (claims : List (String × Json)) (key : String) : Bool :=
  match Json.lookup? claims key with
  | none => true
  | some .null => true
  | some _ => false

/-- A claim that must not lie in the future. -/
def checkNotAfter (now : Moment) (claims : List (String × Json)) (key : String) :
    Except Fault Unit :=
  match Json.lookup? claims key with
  | none => .ok ()
  | some v => do
    if now.instant < (← wholeOf v) * Moment.second then throw .invalid

def isTextOrAbsent (claims : List (String × Json)) (key : String) : Bool :=
  match Json.lookup? claims key with
  | none => true
  | some (.str _) => true
  | some _ => false

/-- The checks of the claims, in their order. -/
def checkClaims (now : Moment) (claims : List (String × Json)) : Except Fault Unit := do
  if ["sub", "userId", "exp"].any (isMissing claims) then throw .invalid
  checkNotAfter now claims "iat"
  checkNotAfter now claims "nbf"
  let expires ← wholeOf ((Json.lookup? claims "exp").getD .null)
  if expires * Moment.second ≤ now.instant then throw .expired
  if ((Json.lookup? claims "aud").getD .null).isTruthy then throw .invalid
  if !isTextOrAbsent claims "sub" || !isTextOrAbsent claims "jti" then throw .invalid

/-- The moment some seconds and microseconds after the start of 1970. -/
def momentOf (seconds micros : Int) : Except Fault Moment :=
  if seconds < -0x8000000000000000 || 0x8000000000000000 ≤ seconds then .error .timestampOverflow
  else
    let (year, _, _) := Moment.dateOfDays (seconds.fdiv 86400)
    let m := Moment.utc (seconds * Moment.second + micros)
    if 2147485547 < year || year < -2147481748 then .error .calendarOverflow
    else if year < 1 || 9999 < year then .error (.yearOutOfRange year)
    else .ok m

/-- The moment of a time of expiry. A fraction of a second counts to the microsecond. -/
def expiryOf : Json → Except Fault Moment
  | .int n => momentOf n 0
  | .bool b => momentOf (if b then 1 else 0) 0
  | .real x =>
    match Decimal.wholePart? x with
    | none => .error .infiniteTime
    | some whole =>
      let fraction := (x - Field.realOfInt whole) * 1000000.0
      match Decimal.Binary.ofFloat? fraction with
      | none => .error .infiniteTime
      | some b =>
        let micros := b.signed (Decimal.roundDiv b.ratio.1 b.ratio.2)
        momentOf (whole + micros.fdiv 1000000) (micros.fmod 1000000)
  | _ => .error .textExpiry

/-- The claims of a token that is good now. -/
def verify (secret : String) (now : Moment) (token : String) : Except Fault Claims := do
  let claims ← openClaims secret token
  checkClaims now claims
  let get (key : String) : Json := (Json.lookup? claims key).getD .null
  let some userId := Uuid.parseLoose? (get "userId").display | throw .invalid
  return {
    userId
    username := (get "sub").display
    email := ((Json.lookup? claims "email").map Json.display).getD ""
    expiresAt := ← expiryOf (get "exp") }

end ReviewDesk.Token
