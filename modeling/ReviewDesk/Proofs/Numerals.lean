import Mathlib.Algebra.Group.Nat.Defs
import Mathlib.Data.List.Basic
import ReviewDesk.Json.Reader
import ReviewDesk.Uuid

/-!
# Numbers in digits

A number that is written in base ten or sixteen has the value that its digits are read as. From
this follows that the text of an identifier is read as the identifier.
-/
namespace ReviewDesk

section Digits

variable {base : Nat}

/-- The digits of a number are read as the number. -/
theorem foldl_toDigits (hbase : 1 < base) {value : Char → Nat}
    (hvalue : ∀ d < base, value d.digitChar = d) (n : Nat) :
    (Nat.toDigits base n).foldl (fun k c => base * k + value c) 0 = n := by
  induction n using Nat.strongRecOn with
  | ind n ih =>
    by_cases hn : n < base
    · simp [Nat.toDigits_of_lt_base hn, hvalue n hn]
    · have hbn := Nat.not_lt.mp hn
      rw [Nat.toDigits_of_base_le hbase hbn, List.foldl_append,
        ih (n / base) (Nat.div_lt_self (by omega) hbase)]
      simp [hvalue _ (Nat.mod_lt n (by omega)), Nat.div_add_mod]

theorem mem_toDigits (hbase : 1 < base) {n : Nat} {c : Char} (h : c ∈ Nat.toDigits base n) :
    ∃ d < base, c = d.digitChar := by
  induction n using Nat.strongRecOn with
  | ind n ih =>
    by_cases hn : n < base
    · rw [Nat.toDigits_of_lt_base hn, List.mem_singleton] at h
      exact ⟨n, hn, h⟩
    · have hbn := Nat.not_lt.mp hn
      rw [Nat.toDigits_of_base_le hbase hbn, List.mem_append, List.mem_singleton] at h
      rcases h with h | h
      · exact ih (n / base) (Nat.div_lt_self (by omega) hbase) h
      · exact ⟨n % base, Nat.mod_lt n (by omega), h⟩

/-- No number but zero begins with the digit zero. -/
theorem head_toDigits (hbase : 1 < base) {n : Nat} (hn : 0 < n) :
    ∃ d rest, 0 < d ∧ d < base ∧ Nat.toDigits base n = d.digitChar :: rest := by
  induction n using Nat.strongRecOn with
  | ind n ih =>
    by_cases hlt : n < base
    · exact ⟨n, [], hn, hlt, Nat.toDigits_of_lt_base hlt⟩
    · have hbn := Nat.not_lt.mp hlt
      obtain ⟨d, rest, hd, hdb, hrest⟩ := ih (n / base) (Nat.div_lt_self hn hbase)
        (Nat.div_pos hbn (by omega))
      rw [Nat.toDigits_of_base_le hbase hbn, hrest]
      exact ⟨d, rest ++ [(n % base).digitChar], hd, hdb, rfl⟩

end Digits

/-- Characters that may stand in a number or an identifier and are no digits. -/
def marks : List Char := ['-', '+', '_', 'x', 'X', 'u', '\x7b', '\x7d']

/-- What is known of a hexadecimal digit as it is written. -/
theorem hexDigit_digitChar : ∀ d < 16, Json.hexDigit? d.digitChar = some d ∧
    d.digitChar.toNat < 128 ∧
    d.digitChar ∉ marks ∧
    Text.isBlank d.digitChar = false := by
  decide +kernel

/-- All characters are hexadecimal digits as they are written. -/
def Hex (cs : List Char) : Prop := ∀ c ∈ cs, ∃ d < 16, c = d.digitChar

theorem Hex.not_mem {cs : List Char} (h : Hex cs) {x : Char}
    (hx : x ∈ marks) : x ∉ cs := by
  intro hmem
  obtain ⟨d, hd, rfl⟩ := h x hmem
  exact (hexDigit_digitChar d hd).2.2.1 hx

theorem Hex.of_subset {cs ds : List Char} (h : Hex cs) (hds : ds ⊆ cs) : Hex ds :=
  fun c hc => h c (hds hc)

section HexText

variable {width n : Nat} (hwidth : 0 < width) (hn : n < 16 ^ width)

include hwidth hn in
theorem length_hexText : (Json.hexText width n).toList.length = width := by
  have hle := (Nat.length_toDigits_le_iff (b := 16) (by decide) hwidth).mpr hn
  rw [Json.hexText, String.toList_ofList, List.length_append, List.length_replicate]
  omega

theorem hex_hexText (width n : Nat) : Hex (Json.hexText width n).toList := by
  intro c hc
  rw [Json.hexText, String.toList_ofList] at hc
  rcases List.mem_append.mp hc with hc | hc
  · exact ⟨0, by decide, List.eq_of_mem_replicate hc⟩
  · exact mem_toDigits (by decide) hc

theorem hexNumber_hexText (width n : Nat) :
    Uuid.hexNumber (Json.hexText width n).toList = n := by
  have hzeros (k : Nat) : (List.replicate k '0').foldl
      (fun n c => 16 * n + (Json.hexDigit? c).getD 0) 0 = 0 := by
    induction k with
    | zero => rfl
    | succ k ih => exact ih
  have hvalue : ∀ d < 16, (Json.hexDigit? d.digitChar).getD 0 = d := by decide +kernel
  rw [Uuid.hexNumber, Json.hexText, String.toList_ofList, List.foldl_append, hzeros]
  exact foldl_toDigits (by decide) hvalue n

end HexText

theorem Json.hex4_hexText {n : Nat} (hn : n < 0x10000) : hex4? (hexText 4 n).toList = some n := by
  have hlength : (hexText 4 n).toList.length = 4 := length_hexText (by decide) hn
  have hhex := hex_hexText 4 n
  have hnumber := hexNumber_hexText 4 n
  match hcs : (hexText 4 n).toList, hlength with
  | [a, b, c, d], _ =>
    rw [hcs] at hhex hnumber
    obtain ⟨x, hx, rfl⟩ := hhex a (by simp)
    obtain ⟨y, hy, rfl⟩ := hhex b (by simp)
    obtain ⟨z, hz, rfl⟩ := hhex c (by simp)
    obtain ⟨w, hw, rfl⟩ := hhex d (by simp)
    have hvalue (k : Nat) (hk : k < 16) := (hexDigit_digitChar k hk).1
    simp only [Uuid.hexNumber, List.foldl_cons, List.foldl_nil, hvalue x hx, hvalue y hy,
      hvalue z hz, hvalue w hw, Option.getD_some] at hnumber
    simp only [hex4?, hvalue x hx, hvalue y hy, hvalue z hz, hvalue w hw]
    change some ((x * 16 + y) * 256 + z * 16 + w) = some n
    rw [Option.some.injEq]
    omega

namespace Uuid

/-- A word that begins with a character that is not there is not there. -/
theorem removeWord_of_not_mem {x : Char} {word cs : List Char} (h : x ∉ cs) (budget : Nat) :
    removeWord (x :: word) budget cs = cs := by
  induction budget generalizing cs with
  | zero => rw [removeWord]
  | succ budget ih =>
    cases cs with
    | nil => rfl
    | cons c rest =>
      rw [List.mem_cons, not_or] at h
      have hno : (x :: word).isPrefixOf (c :: rest) = false := by
        simp [List.isPrefixOf, h.1]
      rw [removeWord, hno, ih h.2]
      rfl

theorem trimBy_of_none {p : Char → Bool} {cs : List Char} (h : ∀ c ∈ cs, p c = false) :
    Text.trimBy p cs = cs := by
  have hdrop {ds : List Char} (hds : ∀ c ∈ ds, p c = false) : ds.dropWhile p = ds := by
    cases ds with
    | nil => rfl
    | cons d rest => rw [List.dropWhile_cons_of_neg (by simp [hds d])]
  rw [Text.trimBy, hdrop h, hdrop fun c hc => h c (List.mem_reverse.mp hc), List.reverse_reverse]

theorem wideDigits_of_hex {cs : List Char} (h : Hex cs) (hne : cs ≠ []) :
    wideDigits? cs = some (cs.map fun c => (Json.hexDigit? c).getD 0) := by
  have hwide {d : Nat} (hd : d < 16) : wideHexDigit? d.digitChar = some d := by
    simp [wideHexDigit?, (hexDigit_digitChar d hd).1]
  fun_induction wideDigits? cs with
  | case1 => exact absurd rfl hne
  | case2 c =>
    obtain ⟨d, hd, rfl⟩ := h c (by simp)
    simp [hwide hd, (hexDigit_digitChar d hd).1]
  | case3 c rest _ => exact absurd (by simp) (h.not_mem (x := '_') (by decide))
  | case4 c rest hrest _ ih =>
    obtain ⟨d, hd, rfl⟩ := h c (by simp)
    rw [ih (h.of_subset fun x hx => List.mem_cons_of_mem _ hx) hrest]
    simp [hwide hd, (hexDigit_digitChar d hd).1]

/-- A number that is written in hexadecimal digits alone has no sign and no mark. -/
theorem wideNumber_of_hex {cs : List Char} (h : Hex cs) (hne : cs ≠ []) :
    wideNumber? cs = some (hexNumber cs : Int) := by
  have hblank : ∀ c ∈ cs, Text.isBlank c = false := by
    intro c hc
    obtain ⟨d, hd, rfl⟩ := h c hc
    exact (hexDigit_digitChar d hd).2.2.2
  have hdigits := wideDigits_of_hex h hne
  rw [wideNumber?, trimBy_of_none hblank]
  obtain ⟨c, rest, rfl⟩ := List.exists_cons_of_ne_nil hne
  have hfirst {x : Char} {ds : List Char} (heq : c :: rest = x :: ds)
      (hx : x ∈ marks) : False :=
    h.not_mem hx (heq ▸ List.mem_cons_self)
  have hsecond {x y : Char} {ds : List Char} (heq : c :: rest = y :: x :: ds)
      (hx : x ∈ marks) : False :=
    h.not_mem hx (heq ▸ List.mem_cons_of_mem _ List.mem_cons_self)
  dsimp only
  split
  · next heq => exact (hfirst heq (by decide)).elim
  · next heq => exact (hfirst heq (by decide)).elim
  · simp only [Bool.false_eq_true, ↓reduceIte]
    split
    · next heq => exact (hsecond heq (by decide)).elim
    · next heq => exact (hsecond heq (by decide)).elim
    · next heq => exact (hsecond heq (by decide)).elim
    · next heq => exact (hsecond heq (by decide)).elim
    · rw [hdigits, Option.map_some, List.foldl_map]
      rfl

/-- The digits between the hyphens of an identifier. -/
def digits (u : Uuid) : List Char := (Json.hexText 32 u.value.toNat).toList

theorem length_digits (u : Uuid) : u.digits.length = 32 :=
  length_hexText (by decide) (Nat.lt_of_lt_of_le u.value.isLt (by decide))

theorem hex_digits (u : Uuid) : Hex u.digits := hex_hexText 32 u.value.toNat

theorem toList_text (u : Uuid) :
    u.text.toList = u.digits.take 8 ++ '-' :: ((u.digits.drop 8).take 4 ++
      '-' :: ((u.digits.drop 12).take 4 ++ '-' :: ((u.digits.drop 16).take 4 ++
        '-' :: (u.digits.drop 20).take 12))) := by
  rw [text, String.toList_intercalate]
  simp [digits, List.intercalate, List.intersperse]

/-- Without its hyphens the text of an identifier is its digits. -/
theorem filter_text (u : Uuid) : u.text.toList.filter (· != '-') = u.digits := by
  have hkeep {ds : List Char} (hds : ds ⊆ u.digits) : ds.filter (· != '-') = ds := by
    rw [List.filter_eq_self]
    intro c hc
    rw [bne_iff_ne]
    rintro rfl
    exact u.hex_digits.not_mem (by decide) (hds hc)
  have hgroup (start size : Nat) : ((u.digits.drop start).take size).filter (· != '-') =
      (u.digits.drop start).take size :=
    hkeep fun c hc => List.mem_of_mem_drop (List.mem_of_mem_take hc)
  have hjoin (start size : Nat) : (u.digits.drop start).take size ++ u.digits.drop (start + size) =
      u.digits.drop start := by
    rw [← List.drop_drop]
    exact List.take_append_drop size (u.digits.drop start)
  have hlast : (u.digits.drop 20).take 12 = u.digits.drop 20 :=
    List.take_of_length_le (by simp [length_digits])
  have hfirst := hgroup 0 8
  rw [List.drop_zero] at hfirst
  rw [toList_text]
  simp only [List.filter_append, List.filter_cons, bne_self_eq_false, Bool.false_eq_true,
    ↓reduceIte, hgroup, hfirst]
  rw [hlast, hjoin 16 4, hjoin 12 4, hjoin 8 4, List.take_append_drop]

/-- The text of an identifier is read as the identifier. -/
theorem parseLoose_text (u : Uuid) : parseLoose? u.text = some u := by
  have hnot {x : Char} (hdash : x ≠ '-')
      (hx : x ∈ marks) : x ∉ u.text.toList := by
    intro hxu
    have hmem : x ∈ u.text.toList.filter (· != '-') := by simp [hxu, hdash]
    rw [filter_text] at hmem
    exact u.hex_digits.not_mem hx hmem
  have hbraces : ∀ c ∈ u.text.toList, (c == '\x7b' || c == '\x7d') = false := by
    intro c hc
    rw [Bool.or_eq_false_iff, beq_eq_false_iff_ne, beq_eq_false_iff_ne]
    constructor
    · rintro rfl
      exact hnot (by decide) (by decide) hc
    · rintro rfl
      exact hnot (by decide) (by decide) hc
  have hu := hnot (x := 'u') (by decide) (by decide)
  have hnumber : hexNumber u.digits = u.value.toNat := hexNumber_hexText 32 u.value.toNat
  have hbound : u.value.toNat < 2 ^ 128 := u.value.isLt
  have hword (word : List Char) (budget : Nat) :
      removeWord ('u' :: word) budget u.text.toList = u.text.toList :=
    removeWord_of_not_mem hu budget
  have hne : u.digits ≠ [] := by
    intro he
    have hlength := u.length_digits
    simp [he] at hlength
  have hurn : "urn:".toList = 'u' :: "rn:".toList := rfl
  have huuid : "uuid:".toList = 'u' :: "uid:".toList := rfl
  rw [parseLoose?, hurn, huuid]
  simp only [hword, trimBy_of_none hbraces, filter_text, length_digits, bne_self_eq_false,
    Bool.false_eq_true, ↓reduceIte, wideNumber_of_hex u.hex_digits hne, hnumber]
  have hfits : (0 ≤ (u.value.toNat : Int) && (u.value.toNat : Int) < Nat.pow 2 128) = true := by
    simp only [Bool.and_eq_true, decide_eq_true_eq]
    exact ⟨Int.natCast_nonneg _, Int.ofNat_lt.mpr hbound⟩
  rw [if_pos hfits, Int.toNat_natCast, ofNat, BitVec.ofNat_toNat, BitVec.setWidth_eq]

end Uuid

end ReviewDesk
