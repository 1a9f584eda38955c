import ReviewDesk.Json.Reader
import ReviewDesk.Text.Utf8

/-!
JSON from bytes. The first bytes tell the encoding; a lone half of a surrogate pair is read as a
replacement character.
-/
namespace ReviewDesk.Json

inductive Encoding where
  | utf8
  | utf16 (bigEndian : Bool)
  | utf32 (bigEndian : Bool)
  deriving Repr, DecidableEq

/-- The encoding, and the bytes without a mark of their order. -/
def detectEncoding : List UInt8 → Encoding × List UInt8
  | 0x00 :: 0x00 :: 0xfe :: 0xff :: rest => (.utf32 true, rest)
  | 0xff :: 0xfe :: 0x00 :: 0x00 :: rest => (.utf32 false, rest)
  | 0xfe :: 0xff :: rest => (.utf16 true, rest)
  | 0xff :: 0xfe :: rest => (.utf16 false, rest)
  | 0xef :: 0xbb :: 0xbf :: rest => (.utf8, rest)
  | a :: b :: c :: d :: rest =>
    let bytes := a :: b :: c :: d :: rest
    if a == 0 then (if b == 0 then .utf32 true else .utf16 true, bytes)
    else if b == 0 then (if c == 0 && d == 0 then .utf32 false else .utf16 false, bytes)
    else (.utf8, bytes)
  | [a, b] =>
    (if a == 0 then .utf16 true else if b == 0 then .utf16 false else .utf8, [a, b])
  | bytes => (.utf8, bytes)

/-- The character of a code, or a replacement character. -/
def charOf (n : Nat) : Char :=
  if n < 0xd800 || (0xdfff < n && n < 0x110000) then Char.ofNat n else Char.ofNat 0xfffd

def units16 (bigEndian : Bool) : List UInt8 → Option (List Nat)
  | [] => some []
  | [_] => none
  | a :: b :: rest =>
    (units16 bigEndian rest).map
      ((if bigEndian then a.toNat * 256 + b.toNat else b.toNat * 256 + a.toNat) :: ·)

def pairUnits : List Nat → List Char
  | [] => []
  | [u] => [charOf u]
  | u :: v :: rest =>
    if 0xd800 ≤ u && u < 0xdc00 && 0xdc00 ≤ v && v < 0xe000 then
      Char.ofNat (0x10000 + (u - 0xd800) * 1024 + (v - 0xdc00)) :: pairUnits rest
    else charOf u :: pairUnits (v :: rest)

def units32 (bigEndian : Bool) : List UInt8 → Option (List Nat)
  | [] => some []
  | a :: b :: c :: d :: rest =>
    let n := if bigEndian then ((a.toNat * 256 + b.toNat) * 256 + c.toNat) * 256 + d.toNat
      else ((d.toNat * 256 + c.toNat) * 256 + b.toNat) * 256 + a.toNat
    if n < 0x110000 then (units32 bigEndian rest).map (n :: ·) else none
  | _ => none

/-- Puts a replacement character where three bytes spell half of a surrogate pair. -/
def passSurrogates : List UInt8 → List UInt8
  | [] => []
  | 0xed :: b :: c :: rest =>
    if 0xa0 ≤ b && b < 0xc0 && 0x80 ≤ c && c < 0xc0 then
      0xef :: 0xbf :: 0xbd :: passSurrogates rest
    else 0xed :: passSurrogates (b :: c :: rest)
  | b :: rest => b :: passSurrogates rest

inductive BytesFault where
  | undecodable (message : String)
  | json (source : List Char) (fault : Fault)
  deriving Repr, DecidableEq

def BytesFault.message : BytesFault → String
  | undecodable message => message
  | json source fault => fault.message source

def textOfBytes (bytes : List UInt8) : Except String String :=
  match detectEncoding bytes with
  | (.utf8, rest) =>
    match Text.decodeUtf8 (passSurrogates rest) with
    | .ok s => .ok s
    | .error fault => .error fault.message
  | (.utf16 big, rest) =>
    match units16 big rest with
    | some us => .ok (.ofList (pairUnits us))
    | none => .error "'utf-16' codec can't decode bytes: truncated data"
  | (.utf32 big, rest) =>
    match units32 big rest with
    | some us => .ok (.ofList (us.map charOf))
    | none => .error "'utf-32' codec can't decode bytes: truncated data"

def parseBytes (bytes : List UInt8) : Except BytesFault Json :=
  match textOfBytes bytes with
  | .error message => .error (.undecodable message)
  | .ok text =>
    match parse text with
    | .ok v => .ok v
    | .error fault => .error (.json text.toList fault)

end ReviewDesk.Json
