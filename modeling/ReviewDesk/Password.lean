import ReviewDesk.Digest.Base64
import ReviewDesk.Digest.Sha256
import ReviewDesk.Text.Utf8
import ReviewDesk.Uuid

/-!
Stored passwords: a version, a work factor, a salt of 22 letters and a hash of 31, with dollar signs
in front of the first two and of the salt. Only the first 72 bytes of a password count, and no
longer password is taken.
-/
namespace ReviewDesk.Password

def byteLimit : Nat := 72

/-- Letters of the alphabet that hashes are written in. -/
def hashText (bytes : List UInt8) : List Char :=
  (Digest.encodeChars bytes).map fun c => if c == '-' then '.' else if c == '_' then '/' else c

def isHashLetter (c : Char) : Bool := c.isAlphanum || c == '.' || c == '/'

/-- The 22 letters of a salt. -/
def saltText (salt : Uuid) : List Char :=
  hashText ((List.range 16).map fun i => UInt8.ofNat (salt.value.toNat / Nat.pow 256 (15 - i)))

/-- The hash of a password under the part in front of it. -/
def digest (front : List Char) (password : List UInt8) : List Char :=
  front ++ (hashText (Digest.sha256 (Text.utf8Bytes (.ofList front) ++ password))).take 31

def twoDigits (n : Nat) : List Char :=
  if n < 10 then '0' :: (toString n).toList else (toString n).toList

/-- The stored form of a password, unless it is too long. -/
def hash? (rounds : Nat) (salt : Uuid) (password : String) : Option String :=
  let bytes := Text.utf8Bytes password
  if byteLimit < bytes.length then none
  else some (.ofList (digest ("$2b$".toList ++ twoDigits rounds ++ ['$'] ++ saltText salt) bytes))

/-- The version, work factor and salt of a stored password with all that stands around them, if it
has this form. -/
def frontOf (stored : String) : Option (List Char) :=
  match stored.toList.splitOn '$' with
  | [[], version, cost, rest] =>
    let salt := rest.take 22
    if ["2a", "2b", "2x", "2y"].contains (String.ofList version) && !cost.isEmpty &&
        cost.all Char.isDigit && salt.length == 22 && salt.all isHashLetter then
      some (['$'] ++ version ++ ['$'] ++ cost ++ ['$'] ++ salt)
    else none
  | _ => none

/-- Whether a password is the stored one. None means that what is stored is not readable. -/
def verify? (password : String) : Option String → Option Bool
  | none => some false
  | some stored =>
    let bytes := (Text.utf8Bytes password).take byteLimit
    (frontOf stored).map fun front => digest front bytes == stored.toList

end ReviewDesk.Password
