import ReviewDesk.Http.Query
import ReviewDesk.Proofs.Transport

/-!
# The percent form of a text

A text in percent form holds characters that mean nothing in an address, percent signs, and what was
to be kept. The bytes of the text can be read out of it, so no two texts have the same percent form.
-/
namespace ReviewDesk.Http

/-! ## Bytes in percent form -/

/-- A hexadecimal digit in upper case. -/
def hexDigit (n : Nat) : Char := (Nat.digitChar n).toUpper

theorem hexDigit_of_lt {n : Nat} (hn : n < 16) :
    Json.hexDigit? (hexDigit n) = some n ∧ isUnreserved (hexDigit n) = true := by
  revert n
  decide

theorem percentByte_eq (b : UInt8) :
    percentByte b = ['%', hexDigit (b.toNat / 16), hexDigit (b.toNat % 16)] := by
  have hall : ∀ n < 256, percentByte (.ofNat n) = ['%', hexDigit (n / 16), hexDigit (n % 16)] := by
    decide +kernel
  have hb := hall b.toNat b.toNat_lt
  rwa [UInt8.ofNat_toNat] at hb

theorem percentBytes_percentByte (b : UInt8) (rest : List Char) :
    percentBytes (percentByte b ++ rest) = b :: percentBytes rest := by
  have hb : b.toNat < 256 := b.toNat_lt
  have hhigh := (hexDigit_of_lt (n := b.toNat / 16) (by omega)).1
  have hlow := (hexDigit_of_lt (n := b.toNat % 16) (by omega)).1
  have hvalue : 16 * (b.toNat / 16) + b.toNat % 16 = b.toNat := Nat.div_add_mod ..
  rw [percentByte_eq, List.cons_append, List.cons_append, List.cons_append, List.nil_append,
    percentBytes, hhigh, hlow]
  dsimp only
  rw [hvalue, UInt8.ofNat_toNat]

theorem percentBytes_percentChar (c : Char) (rest : List Char) :
    percentBytes (percentChar c ++ rest) =
      Text.utf8Bytes (String.singleton c) ++ percentBytes rest := by
  rw [percentChar]
  induction Text.utf8Bytes (String.singleton c) with
  | nil => rfl
  | cons b bytes ih =>
    rw [List.flatMap_cons, List.append_assoc, percentBytes_percentByte, ih, List.cons_append]

theorem percentBytes_cons {c : Char} (hc : c ≠ '%') (rest : List Char) :
    percentBytes (c :: rest) = Text.utf8Bytes (String.singleton c) ++ percentBytes rest := by
  rw [percentBytes]
  rintro a b tail rfl
  exact absurd rfl hc

/-! ## Texts in percent form -/

section Encode

variable {kept : Char → Bool}

/-- One character of a text in percent form. -/
def encodeChar (kept : Char → Bool) (c : Char) : List Char :=
  if isUnreserved c || kept c then [c] else percentChar c

theorem toList_percentEncode (s : String) :
    (percentEncode kept s).toList = s.toList.flatMap (encodeChar kept) := String.toList_ofList

/-- What a text in percent form is made of. -/
theorem mem_encodeChar {c d : Char} (h : d ∈ encodeChar kept c) :
    isUnreserved d = true ∨ d = '%' ∨ kept c = true ∧ d = c := by
  unfold encodeChar at h
  split_ifs at h with hc
  · obtain rfl := List.mem_singleton.mp h
    rcases Bool.or_eq_true_iff.mp hc with hfree | hkept
    · exact .inl hfree
    · exact .inr (.inr ⟨hkept, rfl⟩)
  · obtain ⟨b, -, hd⟩ := List.mem_flatMap.mp h
    have hb : b.toNat < 256 := b.toNat_lt
    rw [percentByte_eq] at hd
    rcases List.mem_cons.mp hd with rfl | hd
    · exact .inr (.inl rfl)
    · rcases List.mem_cons.mp hd with rfl | hd
      · exact .inl (hexDigit_of_lt (by omega)).2
      · obtain rfl := List.mem_singleton.mp hd
        exact .inl (hexDigit_of_lt (by omega)).2

theorem not_mem_percentEncode {d : Char} (hfree : isUnreserved d = false) (hpercent : d ≠ '%')
    (hkept : kept d = false) (s : String) : d ∉ (percentEncode kept s).toList := by
  rw [toList_percentEncode]
  intro h
  obtain ⟨c, -, hd⟩ := List.mem_flatMap.mp h
  rcases mem_encodeChar hd with h | h | ⟨h, rfl⟩
  · exact Bool.false_ne_true (hfree.symm.trans h)
  · exact hpercent h
  · exact Bool.false_ne_true (hkept.symm.trans h)

/-- The bytes of a text can be read out of its percent form. -/
theorem percentBytes_percentEncode (hpercent : kept '%' = false) (s : String) :
    percentBytes (percentEncode kept s).toList = Text.utf8Bytes s := by
  have hchars (cs : List Char) : percentBytes (cs.flatMap (encodeChar kept)) =
      cs.flatMap String.utf8EncodeChar := by
    induction cs with
    | nil => rfl
    | cons c cs ih =>
      have hone : Text.utf8Bytes (String.singleton c) = String.utf8EncodeChar c := by
        simpa using Text.utf8Bytes_ofList [c]
      have hfirst (rest : List Char) : percentBytes (encodeChar kept c ++ rest) =
          Text.utf8Bytes (String.singleton c) ++ percentBytes rest := by
        unfold encodeChar
        split_ifs with hc
        · refine percentBytes_cons ?_ rest
          rintro rfl
          rw [hpercent] at hc
          exact absurd hc (by decide)
        · exact percentBytes_percentChar c rest
      rw [List.flatMap_cons, hfirst, ih, hone, List.flatMap_cons]
  rw [toList_percentEncode, hchars, ← Text.utf8Bytes_ofList, String.ofList_toList]

theorem percentEncode_injective (hpercent : kept '%' = false) :
    Function.Injective (percentEncode kept) := by
  intro s t h
  apply Text.utf8Bytes_injective
  rw [← percentBytes_percentEncode hpercent, h, percentBytes_percentEncode hpercent]

end Encode

theorem encodeSegment_injective : Function.Injective encodeSegment := percentEncode_injective rfl

theorem encodePath_injective : Function.Injective encodePath := percentEncode_injective rfl

end ReviewDesk.Http
