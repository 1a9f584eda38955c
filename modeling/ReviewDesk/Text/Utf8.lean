import ReviewDesk.Json.Writer

/-!
Text from bytes. A sequence that is not UTF-8 is a fault of the longest run of bytes that could
have begun a character.
-/
namespace ReviewDesk.Text

inductive Utf8Problem where
  | badStart | badContinuation | endOfData
  deriving Repr, DecidableEq

def Utf8Problem.text : Utf8Problem → String
  | badStart => "invalid start byte"
  | badContinuation => "invalid continuation byte"
  | endOfData => "unexpected end of data"

/-- Bytes that make no character: where they start, how many they are, and the first of them. -/
structure Utf8Fault where
  position : Nat
  length : Nat
  first : UInt8
  problem : Utf8Problem
  deriving Repr, DecidableEq

def Utf8Fault.message (f : Utf8Fault) : String :=
  let last := f.position + f.length - 1
  if f.length ≤ 1 then
    s!"'utf-8' codec can't decode byte 0x{Json.hexText 2 f.first.toNat} in position " ++
      s!"{f.position}: {f.problem.text}"
  else
    s!"'utf-8' codec can't decode bytes in position {f.position}-{last}: {f.problem.text}"

/-- How many bytes follow a first byte, its bits of the character, and the range of the byte after
it. -/
def leadByte? (b : Nat) : Option (Nat × Nat × Nat × Nat) :=
  if b < 0xc2 then none
  else if b < 0xe0 then some (1, b - 0xc0, 0x80, 0xbf)
  else if b < 0xf0 then
    some (2, b - 0xe0, if b == 0xe0 then 0xa0 else 0x80, if b == 0xed then 0x9f else 0xbf)
  else if b < 0xf5 then
    some (3, b - 0xf0, if b == 0xf0 then 0x90 else 0x80, if b == 0xf4 then 0x8f else 0xbf)
  else none

/-- The rest of a character: how many bytes are due, the range of the next, the bits and the number
of bytes read so far. -/
def continueChar : Nat → Nat → Nat → Nat → Nat → List UInt8 →
    Except (Utf8Problem × Nat) Char × List UInt8
  | 0, _, _, bits, _, bytes => (.ok (Char.ofNat bits), bytes)
  | _ + 1, _, _, _, used, [] => (.error (.endOfData, used), [])
  | due + 1, low, high, bits, used, b :: bytes =>
    if low ≤ b.toNat && b.toNat ≤ high then
      continueChar due 0x80 0xbf (bits * 64 + (b.toNat - 0x80)) (used + 1) bytes
    else (.error (.badContinuation, used), b :: bytes)

/-- The first character, or how many bytes make none, and the bytes after it. -/
def stepChar (first : UInt8) (bytes : List UInt8) :
    Except (Utf8Problem × Nat) Char × List UInt8 :=
  if first.toNat < 0x80 then (.ok (Char.ofNat first.toNat), bytes)
  else match leadByte? first.toNat with
    | none => (.error (.badStart, 1), bytes)
    | some (due, bits, low, high) => continueChar due low high bits 1 bytes

/-- Characters and faults of the bytes, in order. -/
def decodePieces : Nat → Nat → List UInt8 → List (Except Utf8Fault Char)
  | _, _, [] => []
  | 0, _, _ => []
  | budget + 1, position, b :: bytes =>
    match stepChar b bytes with
    | (.ok c, rest) => .ok c :: decodePieces budget (position + c.utf8Size) rest
    | (.error (problem, length), rest) =>
      .error ⟨position, length, b, problem⟩ :: decodePieces budget (position + length) rest

def utf8Pieces (bytes : List UInt8) : List (Except Utf8Fault Char) :=
  decodePieces bytes.length 0 bytes

/-- The text of the bytes, or the first fault. -/
def decodeUtf8 (bytes : List UInt8) : Except Utf8Fault String :=
  ((utf8Pieces bytes).mapM id).map String.ofList

/-- The text of the bytes with a replacement character for every fault. -/
def decodeReplacing (bytes : List UInt8) : String :=
  .ofList ((utf8Pieces bytes).map fun p => p.toOption.getD (Char.ofNat 0xfffd))

def utf8Bytes (s : String) : List UInt8 := s.toUTF8.toList

end ReviewDesk.Text
