import Mathlib.Data.List.Basic
import ReviewDesk.Digest.Base64
import ReviewDesk.Json.Bytes

/-!
# Text in transport

A text in ASCII that is written as bytes reads back as it was, and so do bytes that are written in
letters of base64. Both are needed for every part of a token.
-/
namespace ReviewDesk

namespace Text

theorem toList_loop (bytes : ByteArray) (i : Nat) (done : List UInt8) :
    ByteArray.toList.loop bytes i done = done.reverse ++ bytes.data.toList.drop i := by
  fun_induction ByteArray.toList.loop bytes i done with
  | case1 i done hi ih =>
    have hlength : i < bytes.data.toList.length := by simpa using hi
    rw [ih, List.reverse_cons, List.append_assoc, List.drop_eq_getElem_cons hlength]
    simp [ByteArray.get!, hi]
  | case2 i done hi =>
    have hlength : bytes.data.toList.length ≤ i := by simpa using hi
    rw [List.drop_eq_nil_of_le hlength, List.append_nil]

/-- All characters are in ASCII. -/
def Ascii (cs : List Char) : Prop := ∀ c ∈ cs, c.toNat < 128

instance (cs : List Char) : Decidable (Ascii cs) := List.decidableBAll _ cs

theorem Ascii.append {cs ds : List Char} (hcs : Ascii cs) (hds : Ascii ds) : Ascii (cs ++ ds) := by
  intro c hc
  rcases List.mem_append.mp hc with hc | hc
  · exact hcs c hc
  · exact hds c hc

theorem Ascii.cons {c : Char} {cs : List Char} (h : Ascii cs) (hc : c.toNat < 128) :
    Ascii (c :: cs) := by
  intro x hx
  rcases List.mem_cons.mp hx with rfl | hx
  · exact hc
  · exact h x hx

def asciiBytes (cs : List Char) : List UInt8 := cs.map fun c => UInt8.ofNat c.toNat

theorem utf8Encode_ascii {cs : List Char} (h : Ascii cs) :
    cs.flatMap String.utf8EncodeChar = asciiBytes cs := by
  induction cs with
  | nil => rfl
  | cons c rest ih =>
    have hc : c.val.toNat ≤ 127 := Nat.le_of_lt_succ (h c List.mem_cons_self)
    rw [List.flatMap_cons, ih fun x hx => h x (List.mem_cons_of_mem _ hx), String.utf8EncodeChar]
    simp only [hc, ↓reduceIte]
    rfl

theorem utf8Bytes_ofList (cs : List Char) :
    utf8Bytes (.ofList cs) = cs.flatMap String.utf8EncodeChar := by
  rw [utf8Bytes, String.toUTF8, String.toByteArray_ofList, List.utf8Encode, ByteArray.toList,
    toList_loop, List.data_toByteArray]
  simp

theorem utf8Bytes_injective : Function.Injective utf8Bytes := by
  intro s t h
  rw [utf8Bytes, utf8Bytes, ByteArray.toList, ByteArray.toList, toList_loop, toList_loop] at h
  have hdata : s.toUTF8.data = t.toUTF8.data := Array.toList_inj.mp (by simpa using h)
  exact String.toByteArray_inj.mp (ByteArray.ext hdata)

theorem utf8Bytes_ascii {cs : List Char} (h : Ascii cs) :
    utf8Bytes (.ofList cs) = asciiBytes cs := by
  rw [utf8Bytes_ofList, utf8Encode_ascii h]

theorem utf8ByteSize_ascii {cs : List Char} (h : Ascii cs) :
    (String.ofList cs).utf8ByteSize = cs.length := by
  rw [String.utf8ByteSize, String.toByteArray_ofList, List.utf8Encode, List.size_toByteArray,
    utf8Encode_ascii h, asciiBytes, List.length_map]

theorem toNat_asciiByte {c : Char} (h : c.toNat < 128) : (UInt8.ofNat c.toNat).toNat = c.toNat := by
  rw [UInt8.toNat_ofNat', Nat.mod_eq_of_lt (by omega)]

theorem stepChar_ascii {c : Char} (h : c.toNat < 128) (bytes : List UInt8) :
    stepChar (UInt8.ofNat c.toNat) bytes = (.ok c, bytes) := by
  rw [stepChar, toNat_asciiByte h, if_pos h, Char.ofNat_toNat]

theorem decodePieces_ascii {cs : List Char} (h : Ascii cs) (position : Nat) :
    decodePieces cs.length position (asciiBytes cs) = cs.map .ok := by
  induction cs generalizing position with
  | nil => rfl
  | cons c rest ih =>
    have hrest := ih fun x hx => h x (List.mem_cons_of_mem _ hx)
    rw [asciiBytes, List.map_cons, List.length_cons, decodePieces,
      stepChar_ascii (h c List.mem_cons_self)]
    simp only [List.map_cons, List.cons.injEq, true_and]
    exact hrest _

theorem decodeUtf8_ascii {cs : List Char} (h : Ascii cs) :
    decodeUtf8 (asciiBytes cs) = .ok (.ofList cs) := by
  have hgood (done : List Char) :
      (done.map Except.ok).mapM id = (.ok done : Except Utf8Fault _) := by
    induction done with
    | nil => rfl
    | cons c rest ih =>
      rw [List.map_cons, List.mapM_cons, ih]
      rfl
  have hlength : (asciiBytes cs).length = cs.length := List.length_map ..
  rw [decodeUtf8, utf8Pieces, hlength, decodePieces_ascii h, hgood]
  rfl

end Text

namespace Json

open Text

/-- No three bytes of ASCII spell half of a surrogate pair. -/
theorem passSurrogates_ascii {cs : List Char} (h : Ascii cs) :
    passSurrogates (asciiBytes cs) = asciiBytes cs := by
  induction cs with
  | nil => rfl
  | cons c rest ih =>
    have hc : UInt8.ofNat c.toNat ≠ 0xed := by
      intro he
      have hc := h c List.mem_cons_self
      have hn := toNat_asciiByte hc
      rw [he] at hn
      have hbyte : (0xed : UInt8).toNat = 237 := rfl
      omega
    rw [asciiBytes, List.map_cons, passSurrogates.eq_def]
    split
    · next heq => cases heq
    · next heq => exact absurd (List.cons.inj heq).1 hc
    · next heq =>
      obtain ⟨rfl, rfl⟩ := List.cons.inj heq
      exact congrArg _ (ih fun x hx => h x (List.mem_cons_of_mem _ hx))

/-- The first two bytes of an object tell that it is in UTF-8. -/
theorem detectEncoding_object (rest : List UInt8) :
    detectEncoding (0x7b :: 0x22 :: rest) = (.utf8, 0x7b :: 0x22 :: rest) := by
  match rest with
  | [] => rfl
  | [c] => rfl
  | c :: d :: rest => rfl

/-- A text in ASCII that begins like an object is read as it was written. -/
theorem textOfBytes_object {cs : List Char} (h : Ascii ('\x7b' :: '"' :: cs)) :
    textOfBytes (utf8Bytes (.ofList ('\x7b' :: '"' :: cs))) =
      .ok (.ofList ('\x7b' :: '"' :: cs)) := by
  have hbytes : asciiBytes ('\x7b' :: '"' :: cs) = 0x7b :: 0x22 :: asciiBytes cs := rfl
  rw [textOfBytes, utf8Bytes_ascii h, hbytes, detectEncoding_object, ← hbytes]
  simp only [passSurrogates_ascii h, decodeUtf8_ascii h]

end Json

namespace Digest

theorem letterValue_letter : ∀ n < 64, letterValue? (letter n) = some n ∧ letter n ≠ '=' ∧
    letter n ≠ '.' ∧ (letter n).toNat < 128 := by
  decide +kernel

section Group

variable (v₀ v₁ v₂ v₃ : Nat) (h₀ : v₀ < 64) (h₁ : v₁ < 64) (h₂ : v₂ < 64) (h₃ : v₃ < 64)

include h₀ h₁ in
theorem decodeFrom_two : decodeFrom 0 0 0 [letter v₀, letter v₁, '=', '='] =
    some [UInt8.ofNat (v₀ * 4 + v₁ / 16)] := by
  simp [decodeFrom, letterValue_letter v₀ h₀, letterValue_letter v₁ h₁]

include h₀ h₁ h₂ in
theorem decodeFrom_three : decodeFrom 0 0 0 [letter v₀, letter v₁, letter v₂, '='] =
    some [UInt8.ofNat (v₀ * 4 + v₁ / 16), UInt8.ofNat (v₁ % 16 * 16 + v₂ / 4)] := by
  simp [decodeFrom, letterValue_letter v₀ h₀, letterValue_letter v₁ h₁, letterValue_letter v₂ h₂]

include h₀ h₁ h₂ h₃ in
/-- Four letters are three bytes. -/
theorem decodeFrom_four (cs : List Char) :
    decodeFrom 0 0 0 (letter v₀ :: letter v₁ :: letter v₂ :: letter v₃ :: cs) =
      (decodeFrom 0 0 0 cs).map fun bytes =>
        UInt8.ofNat (v₀ * 4 + v₁ / 16) :: UInt8.ofNat (v₁ % 16 * 16 + v₂ / 4) ::
          UInt8.ofNat (v₂ % 4 * 64 + v₃) :: bytes := by
  simp [decodeFrom, letterValue_letter v₀ h₀, letterValue_letter v₁ h₁, letterValue_letter v₂ h₂,
    letterValue_letter v₃ h₃, Function.comp_def]

end Group

theorem ofNat_eq_self {a : UInt8} {n : Nat} (h : n = a.toNat) : UInt8.ofNat n = a := by
  rw [h, UInt8.ofNat_toNat]

/-- What makes some letters a number of groups of four. -/
def padding (cs : List Char) : List Char := List.replicate ((4 - cs.length % 4) % 4) '='

theorem decodeFrom_encodeChars (bytes : List UInt8) :
    decodeFrom 0 0 0 (encodeChars bytes ++ padding (encodeChars bytes)) = some bytes := by
  fun_induction encodeChars bytes with
  | case1 a b c rest n ih =>
    have ha := a.toNat_lt
    have hb := b.toNat_lt
    have hc := c.toNat_lt
    have hpad : padding (letter (n / 262144) :: letter (n / 4096 % 64) :: letter (n / 64 % 64) ::
        letter (n % 64) :: encodeChars rest) = padding (encodeChars rest) := by
      simp only [padding, List.length_cons]
      congr 1
      omega
    rw [hpad]
    simp only [List.cons_append]
    rw [decodeFrom_four _ _ _ _ (by omega) (by omega) (by omega) (by omega), ih, Option.map_some,
      ofNat_eq_self (a := a) (by omega), ofNat_eq_self (a := b) (by omega),
      ofNat_eq_self (a := c) (by omega)]
  | case2 a b n =>
    have ha := a.toNat_lt
    have hb := b.toNat_lt
    have hthree := decodeFrom_three (n / 262144) (n / 4096 % 64) (n / 64 % 64)
      (by omega) (by omega) (by omega)
    rw [ofNat_eq_self (a := a) (by omega), ofNat_eq_self (a := b) (by omega)] at hthree
    exact hthree
  | case3 a =>
    have ha := a.toNat_lt
    have htwo := decodeFrom_two (a.toNat / 4) (a.toNat % 4 * 16) (by omega) (by omega)
    rw [ofNat_eq_self (a := a) (by omega)] at htwo
    exact htwo
  | case4 => rfl

theorem mem_encodeChars {bytes : List UInt8} {c : Char} (h : c ∈ encodeChars bytes) :
    ∃ n < 64, c = letter n := by
  fun_induction encodeChars bytes with
  | case1 a b d rest n ih =>
    have ha := a.toNat_lt
    have hb := b.toNat_lt
    have hd := d.toNat_lt
    simp only [List.mem_cons] at h
    rcases h with h | h | h | h | h
    · exact ⟨_, by omega, h⟩
    · exact ⟨_, by omega, h⟩
    · exact ⟨_, by omega, h⟩
    · exact ⟨_, by omega, h⟩
    · exact ih h
  | case2 a b n =>
    have ha := a.toNat_lt
    have hb := b.toNat_lt
    simp only [List.mem_cons, List.not_mem_nil, or_false] at h
    rcases h with h | h | h
    · exact ⟨_, by omega, h⟩
    · exact ⟨_, by omega, h⟩
    · exact ⟨_, by omega, h⟩
  | case3 a =>
    have ha := a.toNat_lt
    simp only [List.mem_cons, List.not_mem_nil, or_false] at h
    rcases h with h | h
    · exact ⟨_, by omega, h⟩
    · exact ⟨_, by omega, h⟩
  | case4 => cases h

/-- Bytes that are written in letters can be read back. -/
theorem decode64_encode64 (bytes : List UInt8) : decode64? (encode64 bytes) = some bytes := by
  have hascii : Text.Ascii (encodeChars bytes) := by
    intro c hc
    obtain ⟨n, hn, rfl⟩ := mem_encodeChars hc
    exact (letterValue_letter n hn).2.2.2
  rw [decode64?, encode64, String.toList_ofList]
  simp only [Text.utf8ByteSize_ascii hascii]
  exact decodeFrom_encodeChars bytes

end Digest

end ReviewDesk
