import Mathlib.Data.List.Basic
import ReviewDesk.Json.Writer
import ReviewDesk.Proofs.Numerals
import ReviewDesk.Proofs.Transport

/-!
# Objects as they are written and read

An object whose values are texts and whole numbers is written on one line, in ASCII if the style
says so, and what is written is read as the object. The lemmas follow the reader: a character, a
text, a number, a field, the fields of an object.
-/
namespace ReviewDesk.Json

/-! ## Texts -/

/-- The four digits of an escape. -/
theorem hexText_four {n : Nat} (hn : n < 0x10000) :
    ∃ x y z w, (hexText 4 n).toList = [x, y, z, w] ∧ hex4? [x, y, z, w] = some n := by
  have hlength : (hexText 4 n).toList.length = 4 := length_hexText (by decide) hn
  have hvalue := hex4_hexText hn
  match hcs : (hexText 4 n).toList, hlength with
  | [x, y, z, w], _ => exact ⟨x, y, z, w, rfl, hcs ▸ hvalue⟩

/-- The forms in which a character is written between quotes: behind a backslash, by the four digits
of its code, by those of two codes, or as it is. -/
inductive Escape (c : Char) : List Char → Prop where
  | simple {x : Char} (hx : simpleEscape? x = some c) (hascii : x.toNat < 128) :
    Escape c ['\\', x]
  | single (hbasic : c.toNat < 0x10000) (hsingle : ¬(0xd800 ≤ c.toNat ∧ c.toNat < 0xe000)) :
    Escape c ('\\' :: 'u' :: (hexText 4 c.toNat).toList)
  | pair {m : Nat} (hm : m < 0x100000) (hc : c.toNat = m + 0x10000) :
    Escape c ('\\' :: 'u' :: ((hexText 4 (0xd800 + m / 0x400)).toList ++
      '\\' :: 'u' :: (hexText 4 (0xdc00 + m % 0x400)).toList))
  | plain (hlow : 32 ≤ c.toNat) (hquote : c ≠ '"') (hslash : c ≠ '\\') :
    Escape c [c]

theorem escape_unicodeEscape (c : Char) : Escape c (unicodeEscape c).toList := by
  have hvalid : c.toNat < 0xd800 ∨ 0xdfff < c.toNat ∧ c.toNat < 0x110000 := c.valid
  by_cases hbasic : c.toNat < 0x10000
  · have hchars : (unicodeEscape c).toList = '\\' :: 'u' :: (hexText 4 c.toNat).toList := by
      simp [unicodeEscape, hbasic]
    rw [hchars]
    exact .single hbasic (by omega)
  · obtain ⟨m, hm⟩ := Nat.exists_eq_add_of_le' (Nat.not_lt.mp hbasic)
    have hchars : (unicodeEscape c).toList = '\\' :: 'u' ::
        ((hexText 4 (0xd800 + m / 0x400)).toList ++
          '\\' :: 'u' :: (hexText 4 (0xdc00 + m % 0x400)).toList) := by
      have hsub : c.toNat - 0x10000 = m := by omega
      rw [unicodeEscape, if_neg hbasic]
      simp only [hsub, String.toList_append, List.append_assoc]
      rfl
    rw [hchars]
    exact .pair (by omega) hm

theorem escape_escapeChar (style : Style) (c : Char) : Escape c (escapeChar style c).toList := by
  unfold escapeChar
  split
  · exact .simple rfl (by decide)
  · exact .simple rfl (by decide)
  · exact .simple rfl (by decide)
  · exact .simple rfl (by decide)
  · exact .simple rfl (by decide)
  · exact .simple rfl (by decide)
  · exact .simple rfl (by decide)
  · next hquote hslash _ _ _ _ _ =>
    split
    · exact escape_unicodeEscape c
    · next hprintable =>
      simp only [Bool.or_eq_true, decide_eq_true_eq, not_or] at hprintable
      rw [String.toList_singleton]
      exact .plain (by omega) hquote hslash

/-- A style that escapes wide characters writes only ASCII characters as they are. -/
theorem ascii_of_escapeChar {style : Style} (hstyle : style.escapeWide = true) {c : Char}
    (h : (escapeChar style c).toList = [c]) : c.toNat < 128 := by
  by_contra hwide
  have hchars : ∃ zs, (unicodeEscape c).toList = '\\' :: 'u' :: zs := by
    by_cases hbasic : c.toNat < 0x10000
    · exact ⟨(hexText 4 c.toNat).toList, by simp [unicodeEscape, hbasic]⟩
    · rw [unicodeEscape, if_neg hbasic]
      generalize c.toNat - 0x10000 = m
      simp only [String.toList_append, List.append_assoc]
      exact ⟨(hexText 4 (0xd800 + m / 0x400)).toList ++ _, rfl⟩
  obtain ⟨zs, hzs⟩ := hchars
  have hcode : (c.toNat < 32 || style.escapeWide && 126 < c.toNat) = true := by
    have hbig : 126 < c.toNat := by omega
    rw [hstyle, decide_eq_true hbig, Bool.true_and, Bool.or_true]
  unfold escapeChar at h
  split at h
  case h_8 =>
    rw [if_pos hcode, hzs] at h
    cases h
  all_goals exact hwide (by decide)

theorem hexText_ascii (width n : Nat) : Text.Ascii (hexText width n).toList := by
  intro x hx
  obtain ⟨d, hd, rfl⟩ := hex_hexText width n x hx
  exact (hexDigit_digitChar d hd).2.1

theorem Escape.ascii {c : Char} {cs : List Char} (h : Escape c cs)
    (hplain : cs = [c] → c.toNat < 128) : Text.Ascii cs := by
  have hunit (n : Nat) : Text.Ascii ('\\' :: 'u' :: (hexText 4 n).toList) :=
    ((hexText_ascii 4 n).cons (by decide)).cons (by decide)
  cases h with
  | simple hx hascii =>
    intro y hy
    simp only [List.mem_cons, List.not_mem_nil, or_false] at hy
    rcases hy with rfl | rfl
    · decide
    · exact hascii
  | single => exact hunit c.toNat
  | pair => exact (hunit _).append (hunit _)
  | plain =>
    intro y hy
    rw [List.mem_singleton] at hy
    subst hy
    exact hplain rfl

theorem Escape.ne_nil {c : Char} {cs : List Char} (h : Escape c cs) : cs ≠ [] := by
  cases h <;> exact List.cons_ne_nil _ _

section ReadString

variable {start budget offset : Nat} {c : Char} {rest done : List Char}

theorem readString_simple {x : Char} (hx : simpleEscape? x = some c) :
    readString start (budget + 1) ⟨offset, '\\' :: x :: rest⟩ done =
      readString start budget ⟨offset + 2, rest⟩ (c :: done) := by
  -- The reader looks for a code of four digits before it looks for a simple escape.
  have hu : x ≠ 'u' := by
    rintro rfl
    cases hx
  rw [readString]
  simp [hx, Cursor.advance]

theorem readString_plain (hlow : 32 ≤ c.toNat) (hquote : c ≠ '"') (hslash : c ≠ '\\') :
    readString start (budget + 1) ⟨offset, c :: rest⟩ done =
      readString start budget ⟨offset + 1, rest⟩ (c :: done) := by
  rw [readString]
  simp [hslash, Nat.not_lt.mpr hlow, Cursor.advance]

theorem readString_single {n : Nat} (hn : n < 0x10000) (hsingle : ¬(0xd800 ≤ n ∧ n < 0xe000))
    (hrest : rest ≠ []) :
    readString start (budget + 1) ⟨offset, '\\' :: 'u' :: ((hexText 4 n).toList ++ rest)⟩ done =
      readString start budget ⟨offset + 6, rest⟩ (Char.ofNat n :: done) := by
  obtain ⟨x, y, z, w, hdigits, hvalue⟩ := hexText_four hn
  have hpos := List.length_pos_of_ne_nil hrest
  have hlong : ¬rest.length + 4 < 5 := by omega
  have hhalf : ¬(0xd800 ≤ n ∧ n < 0xdc00) := by omega
  rw [hdigits, readString]
  simp only [List.cons_append, List.nil_append, List.length_cons, List.take_succ_cons,
    List.take_zero, hlong, hvalue, Bool.and_eq_true, decide_eq_true_eq, hhalf, hsingle, false_and,
    ↓reduceIte, Cursor.advance, List.drop_succ_cons, List.drop_zero]

theorem readString_pair {m : Nat} (hm : m < 0x100000) (hrest : rest ≠ []) :
    readString start (budget + 1) ⟨offset, '\\' :: 'u' ::
        ((hexText 4 (0xd800 + m / 0x400)).toList ++
          '\\' :: 'u' :: ((hexText 4 (0xdc00 + m % 0x400)).toList ++ rest))⟩ done =
      readString start budget ⟨offset + 12, rest⟩ (Char.ofNat (m + 0x10000) :: done) := by
  have hhigh : 0xd800 + m / 0x400 < 0xdc00 := by omega
  have hlow : 0xdc00 + m % 0x400 < 0xe000 := by omega
  have hcode : 0x10000 + (0xd800 + m / 0x400 - 0xd800) * 0x400 + (0xdc00 + m % 0x400 - 0xdc00) =
      m + 0x10000 := by omega
  obtain ⟨x, y, z, w, hfirst, hhighValue⟩ := hexText_four (n := 0xd800 + m / 0x400) (by omega)
  obtain ⟨x', y', z', w', hsecond, hlowValue⟩ := hexText_four (n := 0xdc00 + m % 0x400) (by omega)
  have hpos := List.length_pos_of_ne_nil hrest
  have hlong : ¬rest.length + 10 < 5 := by omega
  have hpair : 11 ≤ rest.length + 10 := by omega
  rw [hfirst, hsecond, readString]
  simp only [List.cons_append, List.nil_append, List.length_cons, List.take_succ_cons,
    List.take_zero, hlong, hhighValue, hhigh, hpair, Nat.le_add_right, BEq.rfl, Bool.and_eq_true,
    decide_true, and_self, List.drop_succ_cons, List.drop_zero, hlowValue, hlow, hcode,
    ↓reduceIte, Cursor.advance]

/-- What is written for a character is read as the character. -/
theorem readString_escape {cs : List Char} (h : Escape c cs) (hrest : rest ≠ []) :
    readString start (budget + 1) ⟨offset, cs ++ rest⟩ done =
      readString start budget ⟨offset + cs.length, rest⟩ (c :: done) := by
  have hlength {n : Nat} (hn : n < 0x10000) : (hexText 4 n).toList.length = 4 :=
    length_hexText (by decide) hn
  cases h with
  | simple hx => exact readString_simple hx
  | single hbasic hsingle =>
    rw [List.cons_append, List.cons_append, readString_single hbasic hsingle hrest,
      Char.ofNat_toNat]
    simp only [List.length_cons, hlength hbasic]
  | @pair m hm hc =>
    simp only [List.cons_append, List.append_assoc]
    rw [readString_pair hm hrest, ← hc, Char.ofNat_toNat]
    simp only [List.length_cons, List.length_append, hlength (n := 0xd800 + m / 0x400) (by omega),
      hlength (n := 0xdc00 + m % 0x400) (by omega)]
  | plain hlow hquote hslash => exact readString_plain hlow hquote hslash

/-- The characters of a text as they are written between quotes. -/
def escaped (style : Style) (s : String) : List Char :=
  s.toList.flatMap fun c => (escapeChar style c).toList

theorem toList_quote (style : Style) (s : String) :
    (quote style s).toList = '"' :: (escaped style s ++ ['"']) := by
  have hfold (cs : List Char) (out : String) :
      (cs.foldl (fun out c => out ++ escapeChar style c) out).toList =
        out.toList ++ cs.flatMap fun c => (escapeChar style c).toList := by
    induction cs generalizing out with
    | nil => simp
    | cons c rest ih => simp [ih]
  rw [quote, String.toList_append, hfold]
  rfl

theorem escaped_ascii {style : Style} (hstyle : style.escapeWide = true) (s : String) :
    Text.Ascii (escaped style s) := by
  intro x hx
  obtain ⟨c, -, hc⟩ := List.mem_flatMap.mp hx
  exact (escape_escapeChar style c).ascii (ascii_of_escapeChar hstyle) x hc

theorem length_le_escaped (style : Style) (s : String) :
    s.toList.length ≤ (escaped style s).length := by
  rw [escaped]
  induction s.toList with
  | nil => exact Nat.le_refl 0
  | cons c cs ih =>
    have hpos := List.length_pos_of_ne_nil (escape_escapeChar style c).ne_nil
    rw [List.flatMap_cons, List.length_cons, List.length_append]
    omega

/-- What is written between quotes is read as the text. -/
theorem readString_escaped (style : Style) {cs : List Char} (hbudget : cs.length < budget) :
    readString start budget
        ⟨offset, cs.flatMap (fun c => (escapeChar style c).toList) ++ '"' :: rest⟩ done =
      .ok (.ofList (done.reverse ++ cs),
        ⟨offset + (cs.flatMap fun c => (escapeChar style c).toList).length + 1, rest⟩) := by
  induction cs generalizing budget offset done with
  | nil =>
    obtain ⟨budget, rfl⟩ := Nat.exists_eq_add_one.mpr hbudget
    simp [readString, Cursor.advance]
  | cons c cs ih =>
    obtain ⟨budget, rfl⟩ := Nat.exists_eq_add_one_of_ne_zero (Nat.ne_zero_of_lt hbudget)
    rw [List.flatMap_cons, List.append_assoc,
      readString_escape (escape_escapeChar style c) (by simp), ih (by simpa using hbudget)]
    simp [Nat.add_assoc]

end ReadString

/-! ## Numbers -/

/-- A number in base ten as it is written. -/
def numeral (n : Int) : List Char :=
  if n < 0 then '-' :: Nat.toDigits 10 n.natAbs else Nat.toDigits 10 n.natAbs

theorem toList_toString (n : Int) : (toString n).toList = numeral n := by
  rw [Int.toString_eq_repr, Int.repr_eq_if, numeral]
  by_cases hn : n < 0
  · have habs : (-n).toNat = n.natAbs := by omega
    rw [if_neg (by omega), if_pos hn, String.toList_append, Nat.toList_repr, habs]
    rfl
  · have habs : n.toNat = n.natAbs := by omega
    rw [if_pos (by omega), if_neg hn, Nat.toList_repr, habs]

theorem isDigit_toDigits {n : Nat} {c : Char} (h : c ∈ Nat.toDigits 10 n) : c.isDigit = true := by
  have hdigit : ∀ d < 10, d.digitChar.isDigit = true := by decide
  obtain ⟨d, hd, rfl⟩ := mem_toDigits (by decide) h
  exact hdigit d hd

theorem digitsValue_toDigits (n : Nat) : digitsValue (Nat.toDigits 10 n) = n := by
  have hvalue : ∀ d < 10, d.digitChar.toNat - 48 = d := by decide
  exact foldl_toDigits (by decide) hvalue n

/-- What may stand behind the value of a field. -/
def Closes (x : Char) : Prop := x = ',' ∨ x = '\x7d'

section ReadNumber

variable {offset : Nat} {x y : Char} {ys rest : List Char}

theorem takeWhile_isDigit (hdigits : ∀ c ∈ ys, c.isDigit = true) (hx : Closes x) :
    (ys ++ x :: rest).takeWhile Char.isDigit = ys := by
  have hstop : x.isDigit = false := by
    rcases hx with rfl | rfl <;> rfl
  rw [List.takeWhile_append_of_pos hdigits, List.takeWhile_cons_of_neg (by simp [hstop]),
    List.append_nil]

/-- A run of digits that does not begin with zero is read whole, with or without a sign. -/
theorem readNumber_signed (sign : List Char) (hsign : sign = [] ∨ sign = ['-'])
    (hdigits : ∀ c ∈ y :: ys, c.isDigit = true) (hy : y ≠ '0')
    (hshort : (y :: ys).length ≤ maxDigits) (hx : Closes x) :
    readNumber ⟨offset, sign ++ (y :: ys) ++ x :: rest⟩ =
      .ok (.int (if sign = [] then digitsValue (y :: ys) else -(digitsValue (y :: ys))),
        ⟨offset + (sign ++ (y :: ys)).length, x :: rest⟩) := by
  have hminus : y ≠ '-' := by
    rintro rfl
    exact absurd (hdigits '-' List.mem_cons_self) (by decide)
  have hpoint : x ≠ '.' ∧ x ≠ 'e' ∧ x ≠ 'E' := by
    rcases hx with rfl | rfl <;> decide
  have hwhole : (y :: (ys ++ x :: rest)).takeWhile Char.isDigit = y :: ys :=
    takeWhile_isDigit hdigits hx
  have hlong : ¬maxDigits < ys.length + 1 := Nat.not_lt.mpr hshort
  rw [readNumber]
  rcases hsign with rfl | rfl
  · simp [hminus, hy, hwhole, hpoint, hlong, readNumber.readPower, Cursor.advance]
  · simp [hy, hwhole, hpoint, hlong, readNumber.readPower, Cursor.advance, Nat.add_comm 1]

theorem readNumber_zero (hx : Closes x) :
    readNumber ⟨offset, '0' :: x :: rest⟩ = .ok (.int 0, ⟨offset + 1, x :: rest⟩) := by
  rcases hx with rfl | rfl <;> rfl

/-- A number is read as it was written, if it is not too long. -/
theorem readNumber_numeral {n : Int} (hshort : (Nat.toDigits 10 n.natAbs).length ≤ maxDigits)
    (hx : Closes x) :
    readNumber ⟨offset, numeral n ++ x :: rest⟩ =
      .ok (.int n, ⟨offset + (numeral n).length, x :: rest⟩) := by
  by_cases hzero : n = 0
  · subst hzero
    exact readNumber_zero hx
  · have hten : 1 < 10 := by decide
    obtain ⟨d, ys, hd, hdten, hys⟩ := head_toDigits hten (Int.natAbs_pos.mpr hzero)
    have hfirst : d.digitChar ≠ '0' := by
      have hall : ∀ d < 10, 0 < d → d.digitChar ≠ '0' := by decide
      exact hall d hdten hd
    have hdigits : ∀ c ∈ d.digitChar :: ys, c.isDigit = true := fun c hc =>
      isDigit_toDigits (hys ▸ hc)
    have hvalue : digitsValue (d.digitChar :: ys) = n.natAbs := by
      rw [← hys, digitsValue_toDigits]
    rw [hys] at hshort
    by_cases hneg : n < 0
    · have hnumeral : numeral n = ['-'] ++ d.digitChar :: ys := by
        rw [numeral, if_pos hneg, hys]
        rfl
      have hn : -(n.natAbs : Int) = n := by omega
      rw [hnumeral, readNumber_signed ['-'] (.inr rfl) hdigits hfirst hshort hx, hvalue,
        if_neg (by decide), hn]
    · have hnumeral : numeral n = [] ++ d.digitChar :: ys := by
        rw [numeral, if_neg hneg, hys]
        rfl
      have hn : (n.natAbs : Int) = n := by omega
      rw [hnumeral, readNumber_signed [] (.inl rfl) hdigits hfirst hshort hx, hvalue, if_pos rfl,
        hn]

/-- A number starts with a digit, or with a sign and a digit. -/
theorem numeral_head (n : Int) : ∃ y ys, y.isDigit = true ∧
    (numeral n = y :: ys ∨ numeral n = '-' :: y :: ys) := by
  obtain ⟨y, ys, hys⟩ := List.exists_cons_of_ne_nil (Nat.toDigits_ne_nil (b := 10) (n := n.natAbs))
  refine ⟨y, ys, isDigit_toDigits (n := n.natAbs) (hys ▸ List.mem_cons_self), ?_⟩
  rw [numeral, hys]
  split
  · exact .inr rfl
  · exact .inl rfl

/-- No number is taken for a word, a text or the start of something longer. -/
theorem readValue_of_numeral (budget : Nat) (n : Int) :
    readValue (budget + 1) ⟨offset, numeral n ++ rest⟩ =
      readNumber ⟨offset, numeral n ++ rest⟩ := by
  obtain ⟨y, ys, hy, hhead⟩ := numeral_head n
  have hne {c : Char} (hc : c.isDigit = false) : c ≠ y := by
    rintro rfl
    exact absurd hy (by simp [hc])
  have hletter : 'n' ≠ y ∧ 't' ≠ y ∧ 'f' ≠ y ∧ 'N' ≠ y ∧ 'I' ≠ y ∧ '-' ≠ y :=
    ⟨hne rfl, hne rfl, hne rfl, hne rfl, hne rfl, hne rfl⟩
  rcases hhead with hhead | hhead
  · have hword : wordValue? (y :: (ys ++ rest)) = none := by simp [wordValue?, hletter]
    have hopening : y ≠ '"' ∧ y ≠ '\x7b' ∧ y ≠ '[' :=
      ⟨(hne rfl).symm, (hne rfl).symm, (hne rfl).symm⟩
    rw [hhead, List.cons_append, readValue]
    simp [hword, hopening]
  · have hword : wordValue? ('-' :: y :: (ys ++ rest)) = none := by simp [wordValue?, hletter]
    rw [hhead, List.cons_append, readValue]
    simp [hword]

end ReadNumber

/-! ## Fields and objects -/

/-- Texts, and whole numbers that are not too long to be read. -/
def Plain : Json → Prop
  | .str _ => True
  | .int n => (Nat.toDigits 10 n.natAbs).length ≤ maxDigits
  | _ => False

/-- A plain value as it is written. -/
def plainChars (style : Style) : Json → List Char
  | .str s => '"' :: (escaped style s ++ ['"'])
  | .int n => numeral n
  | _ => []

theorem toList_writeAt (style : Style) {v : Json} (hv : v.Plain) (level : Nat) :
    (writeAt style level v).toList = plainChars style v := by
  match v, hv with
  | .str s, _ => rw [writeAt, toList_quote, plainChars]
  | .int n, _ => rw [writeAt, toList_toString, plainChars]

theorem numeral_ascii (n : Int) : Text.Ascii (numeral n) := by
  have hdigits : Text.Ascii (Nat.toDigits 10 n.natAbs) := by
    intro c hc
    obtain ⟨d, hd, rfl⟩ := mem_toDigits (by decide) hc
    exact (hexDigit_digitChar d (by omega)).2.1
  rw [numeral]
  split
  · exact hdigits.cons (by decide)
  · exact hdigits

theorem plainChars_ascii {style : Style} (hstyle : style.escapeWide = true) {v : Json}
    (hv : v.Plain) : Text.Ascii (plainChars style v) := by
  match v, hv with
  | .str s, _ => exact ((escaped_ascii hstyle s).append (by decide)).cons (by decide)
  | .int n, _ => exact numeral_ascii n

section ReadFields

variable {style : Style} {budget offset : Nat} {key : String} {v : Json} {x : Char}
variable {rest : List Char} {done fields : List (String × Json)}

theorem skipBlanks_of_not_blank (hx : x ∉ [' ', '\t', '\n', '\r']) :
    Cursor.skipBlanks ⟨offset, x :: rest⟩ = ⟨offset, x :: rest⟩ := by
  simp only [List.mem_cons, List.not_mem_nil, or_false, not_or] at hx
  simp [Cursor.skipBlanks, Cursor.advance, hx]

theorem plainChars_head (style : Style) (hv : v.Plain) :
    ∃ x rest, x ∉ [' ', '\t', '\n', '\r'] ∧ plainChars style v = x :: rest := by
  match v, hv with
  | .str s, _ => exact ⟨'"', _, by decide, rfl⟩
  | .int n, _ =>
    obtain ⟨y, ys, hy, hhead⟩ := numeral_head n
    have hblank : y ∉ [' ', '\t', '\n', '\r'] := by
      intro hmem
      simp only [List.mem_cons, List.not_mem_nil, or_false] at hmem
      rcases hmem with rfl | rfl | rfl | rfl <;> exact absurd hy (by decide)
    rcases hhead with hhead | hhead
    · exact ⟨y, ys, hblank, hhead⟩
    · exact ⟨'-', y :: ys, by decide, hhead⟩

/-- A text in quotes is read as the text. -/
theorem readString_quoted {start : Nat}
    (hlength : (escaped style key ++ '"' :: rest).length ≤ budget) :
    readString start budget ⟨offset, escaped style key ++ '"' :: rest⟩ [] =
      .ok (key, ⟨offset + (escaped style key).length + 1, rest⟩) := by
  have hbudget : key.toList.length < budget := by
    have hle := length_le_escaped style key
    simp only [List.length_append, List.length_cons] at hlength
    omega
  rw [escaped, readString_escaped style hbudget, List.reverse_nil, List.nil_append,
    String.ofList_toList]

theorem readValue_text (s : String) :
    readValue (budget + 1) ⟨offset, plainChars style (.str s) ++ rest⟩ =
      .ok (.str s, ⟨offset + (plainChars style (.str s)).length, rest⟩) := by
  rw [plainChars, readValue]
  simp only [List.cons_append, List.append_assoc, List.nil_append, Cursor.advance,
    List.drop_succ_cons, List.drop_zero]
  rw [readString_quoted (by simp)]
  simp [Except.map, Nat.add_assoc, Nat.add_comm 1]

theorem readValue_plain (hv : v.Plain) (hx : Closes x) :
    readValue (budget + 1) ⟨offset, plainChars style v ++ x :: rest⟩ =
      .ok (v, ⟨offset + (plainChars style v).length, x :: rest⟩) := by
  match v, hv with
  | .int n, hv =>
    rw [plainChars, readValue_of_numeral, readNumber_numeral hv hx]
  | .str s, _ => exact readValue_text s

/-- A field as it is written. -/
def fieldChars (style : Style) (f : String × Json) : List Char :=
  '"' :: (escaped style f.1 ++ '"' :: ':' :: plainChars style f.2)

theorem fieldChars_ascii (hstyle : style.escapeWide = true) {f : String × Json} (hf : f.2.Plain) :
    Text.Ascii (fieldChars style f) :=
  ((escaped_ascii hstyle f.1).append
    (((plainChars_ascii hstyle hf).cons (by decide)).cons (by decide))).cons (by decide)

/-- One field is read, and then the next one or the end. -/
theorem readFields_step (hv : v.Plain) (hx : Closes x) :
    readFields (budget + 2) ⟨offset, fieldChars style (key, v) ++ x :: rest⟩ done =
      if x = '\x7d' then
        .ok (insert key v done, ⟨offset + (fieldChars style (key, v)).length + 1, rest⟩)
      else readFields (budget + 1)
        (Cursor.skipBlanks ⟨offset + (fieldChars style (key, v)).length + 1, rest⟩)
        (insert key v done) := by
  have hcolon (n : Nat) (zs : List Char) : Cursor.skipBlanks ⟨n, ':' :: zs⟩ = ⟨n, ':' :: zs⟩ :=
    skipBlanks_of_not_blank (by decide)
  have hvalue (n : Nat) : Cursor.skipBlanks ⟨n, plainChars style v ++ x :: rest⟩ =
      ⟨n, plainChars style v ++ x :: rest⟩ := by
    obtain ⟨y, ys, hblank, hhead⟩ := plainChars_head style hv
    rw [hhead, List.cons_append, skipBlanks_of_not_blank hblank]
  have hclose (n : Nat) : Cursor.skipBlanks ⟨n, x :: rest⟩ = ⟨n, x :: rest⟩ :=
    skipBlanks_of_not_blank (by rcases hx with rfl | rfl <;> decide)
  have hoffset : offset + 1 + (escaped style key).length + 1 + 1 + (plainChars style v).length + 1 =
      offset + (fieldChars style (key, v)).length + 1 := by
    simp only [fieldChars, List.length_cons, List.length_append]
    omega
  rw [← hoffset, fieldChars, readFields]
  simp only [List.cons_append, List.append_assoc, Cursor.advance, List.drop_succ_cons,
    List.drop_zero]
  rw [readString_quoted (by simp)]
  simp only [bind, Except.bind, hcolon, List.drop_succ_cons, List.drop_zero, hvalue,
    readValue_plain hv hx, hclose]
  rcases hx with rfl | rfl
  · rfl
  · rfl

theorem insert_of_not_mem (h : key ∉ done.map (·.1)) : insert key v done = done ++ [(key, v)] := by
  induction done with
  | nil => rfl
  | cons f rest ih =>
    rw [List.map_cons, List.mem_cons, not_or] at h
    rw [insert, if_neg (Ne.symm h.1), ih h.2, List.cons_append]

/-- The fields of an object as they are written. -/
def fieldsChars (style : Style) (fields : List (String × Json)) : List Char :=
  [','].intercalate (fields.map (fieldChars style))

theorem fieldsChars_singleton (f : String × Json) : fieldsChars style [f] = fieldChars style f := by
  simp [fieldsChars, List.intercalate]

theorem fieldsChars_cons_cons (f g : String × Json) (fields : List (String × Json)) :
    fieldsChars style (f :: g :: fields) =
      fieldChars style f ++ ',' :: fieldsChars style (g :: fields) := by
  simp [fieldsChars, List.intercalate_cons_cons]

theorem fieldsChars_head (style : Style) (hne : fields ≠ []) :
    ∃ zs, fieldsChars style fields = '"' :: zs := by
  match fields, hne with
  | [f], _ => exact ⟨_, fieldsChars_singleton f⟩
  | f :: g :: fields, _ => exact ⟨_, fieldsChars_cons_cons f g fields⟩

theorem fieldsChars_ascii (hstyle : style.escapeWide = true) (hplain : ∀ f ∈ fields, f.2.Plain) :
    Text.Ascii (fieldsChars style fields) := by
  induction fields with
  | nil => exact fun c hc => absurd hc List.not_mem_nil
  | cons f fields ih =>
    have hf := fieldChars_ascii hstyle (hplain f List.mem_cons_self)
    cases fields with
    | nil =>
      rw [fieldsChars_singleton]
      exact hf
    | cons g fields =>
      rw [fieldsChars_cons_cons]
      exact hf.append ((ih fun h hh => hplain h (List.mem_cons_of_mem _ hh)).cons (by decide))

/-- The fields of an object are read as they were written, behind those that came before. -/
theorem readFields_written (hne : fields ≠ []) (hplain : ∀ f ∈ fields, f.2.Plain)
    (hkeys : ((done ++ fields).map (·.1)).Nodup) (hbudget : fields.length < budget) :
    readFields budget ⟨offset, fieldsChars style fields ++ '\x7d' :: rest⟩ done =
      .ok (done ++ fields, ⟨offset + (fieldsChars style fields).length + 1, rest⟩) := by
  induction fields generalizing budget offset done with
  | nil => exact absurd rfl hne
  | cons f fields ih =>
    obtain ⟨key, v⟩ := f
    obtain ⟨budget, rfl⟩ : ∃ b, budget = b + 2 :=
      Nat.exists_eq_add_of_le' (Nat.le_trans (by simp) (Nat.succ_le_of_lt hbudget))
    have hv : v.Plain := hplain (key, v) List.mem_cons_self
    have hnew : insert key v done = done ++ [(key, v)] := by
      apply insert_of_not_mem
      rw [List.map_append, List.map_cons, List.nodup_append] at hkeys
      exact fun hmem => hkeys.2.2 key hmem key List.mem_cons_self rfl
    cases fields with
    | nil =>
      rw [fieldsChars_singleton, readFields_step hv (.inr rfl), if_pos rfl, hnew]
    | cons g fields =>
      obtain ⟨zs, hzs⟩ := fieldsChars_head style (List.cons_ne_nil g fields)
      have hskip (n : Nat) :
          Cursor.skipBlanks ⟨n, fieldsChars style (g :: fields) ++ '\x7d' :: rest⟩ =
            ⟨n, fieldsChars style (g :: fields) ++ '\x7d' :: rest⟩ := by
        rw [hzs, List.cons_append, skipBlanks_of_not_blank (by decide)]
      have hkeys' : ((done ++ [(key, v)] ++ g :: fields).map (·.1)).Nodup := by
        rwa [List.append_assoc, List.singleton_append]
      have hbudget' : (g :: fields).length < budget + 1 := by
        simpa using hbudget
      rw [fieldsChars_cons_cons, List.append_assoc, List.cons_append,
        readFields_step hv (.inl rfl), if_neg (by decide), hskip, hnew,
        ih (List.cons_ne_nil g fields) (fun h hh => hplain h (List.mem_cons_of_mem _ hh)) hkeys'
          hbudget']
      simp [Nat.add_assoc, Nat.add_comm 1]

end ReadFields

/-- On one line, with a bare comma and a bare colon, and the keys as they come. -/
structure Style.OneLine (style : Style) : Prop where
  sortKeys : style.sortKeys = false
  indent : style.indent = none
  itemSeparator : style.itemSeparator = ","
  keySeparator : style.keySeparator = ":"

theorem oneLine_compact : Style.compact.OneLine := ⟨rfl, rfl, rfl, rfl⟩

theorem toList_writeFields {style : Style} (hstyle : style.OneLine)
    {fields : List (String × Json)} (hplain : ∀ f ∈ fields, f.2.Plain) (level : Nat) :
    ((writeFields style level fields).map fun (k, v) =>
      quote style k ++ style.keySeparator ++ v).map String.toList =
        fields.map (fieldChars style) := by
  induction fields with
  | nil => rfl
  | cons f fields ih =>
    rw [writeFields, List.map_cons, List.map_cons, List.map_cons,
      ih fun g hg => hplain g (List.mem_cons_of_mem _ hg)]
    simp [hstyle.keySeparator, toList_quote, toList_writeAt style (hplain f List.mem_cons_self),
      fieldChars]

/-- An object of texts and whole numbers, each under a key of its own. -/
structure Flat (fields : List (String × Json)) : Prop where
  nonempty : fields ≠ []
  keys : (fields.map (·.1)).Nodup
  plain : ∀ f ∈ fields, f.2.Plain

namespace Flat

variable {style : Style} {fields : List (String × Json)} (hf : Flat fields)

include hf

theorem toList_write (hstyle : style.OneLine) :
    (write style (.obj fields)).toList = '\x7b' :: (fieldsChars style fields ++ ['\x7d']) := by
  have hnewline (level : Nat) : style.newline level = "" := by rw [Style.newline, hstyle.indent]
  have harrange (parts : List (String × String)) : arrange style parts = parts := by
    simp [arrange, hstyle.sortKeys]
  obtain ⟨f, gs, rfl⟩ := List.exists_cons_of_ne_nil hf.nonempty
  have hparts := toList_writeFields hstyle hf.plain 1
  rw [write, writeAt, harrange, bracket, if_neg (by simp [writeFields])]
  simp only [hnewline, hstyle.itemSeparator, String.append_empty, String.toList_append,
    String.toList_intercalate, hparts]
  rfl

theorem length_le_fieldsChars : fields.length ≤ (fieldsChars style fields).length := by
  have hne := hf.nonempty
  clear hf
  induction fields with
  | nil => exact absurd rfl hne
  | cons f fields ih =>
    cases fields with
    | nil => simp [fieldsChars_singleton, fieldChars]
    | cons g fields =>
      have hle := ih (List.cons_ne_nil g fields)
      rw [fieldsChars_cons_cons]
      simp only [List.length_append, List.length_cons] at hle ⊢
      omega

theorem readValue_object {budget offset : Nat} (hbudget : fields.length + 1 < budget) :
    readValue budget ⟨offset, '\x7b' :: (fieldsChars style fields ++ ['\x7d'])⟩ =
      .ok (.obj fields, ⟨offset + 1 + (fieldsChars style fields).length + 1, []⟩) := by
  obtain ⟨budget, rfl⟩ := Nat.exists_eq_add_one_of_ne_zero (Nat.ne_zero_of_lt hbudget)
  obtain ⟨zs, hzs⟩ : ∃ zs, fieldsChars style fields = '"' :: zs := fieldsChars_head _ hf.nonempty
  have hquote (n : Nat) : Cursor.skipBlanks ⟨n, fieldsChars style fields ++ ['\x7d']⟩ =
      ⟨n, fieldsChars style fields ++ ['\x7d']⟩ := by
    rw [hzs, List.cons_append, skipBlanks_of_not_blank (by decide)]
  have hread (n : Nat) : readFields budget ⟨n, fieldsChars style fields ++ ['\x7d']⟩ [] =
      .ok (fields, ⟨n + (fieldsChars style fields).length + 1, []⟩) :=
    readFields_written hf.nonempty hf.plain (by simpa using hf.keys) (by omega)
  rw [readValue]
  simp only [Cursor.advance, List.drop_succ_cons, List.drop_zero, hquote, hread, Except.map]
  rw [hzs]
  rfl

/-- An object is read as it was written. -/
theorem parse_write (hstyle : style.OneLine) :
    parse (write style (.obj fields)) = .ok (.obj fields) := by
  have hlength : fields.length ≤ (fieldsChars style fields).length := hf.length_le_fieldsChars
  have hbrace (cs : List Char) : Cursor.skipBlanks ⟨0, '\x7b' :: cs⟩ = ⟨0, '\x7b' :: cs⟩ :=
    skipBlanks_of_not_blank (by decide)
  have hbudget : fields.length + 1 <
      2 * ('\x7b' :: (fieldsChars style fields ++ ['\x7d'])).length + 2 := by
    simp only [List.length_append, List.length_cons]
    omega
  rw [parse, hf.toList_write hstyle, parseChars, if_neg (by simp)]
  simp only [hbrace, hf.readValue_object hbudget]
  rfl

theorem write_ascii : Text.Ascii (write .compact (.obj fields)).toList := by
  rw [hf.toList_write oneLine_compact]
  exact ((fieldsChars_ascii rfl hf.plain).append (by decide)).cons (by decide)

/-- An object that is sent as bytes is read as it was written. -/
theorem parseBytes_write :
    parseBytes (Text.utf8Bytes (write .compact (.obj fields))) = .ok (.obj fields) := by
  obtain ⟨zs, hzs⟩ : ∃ zs, fieldsChars .compact fields = '"' :: zs := fieldsChars_head _ hf.nonempty
  have hchars : (write .compact (.obj fields)).toList = '\x7b' :: '"' :: (zs ++ ['\x7d']) := by
    rw [hf.toList_write oneLine_compact, hzs, List.cons_append]
  have hascii := hf.write_ascii
  have htext := congrArg String.ofList hchars
  rw [String.ofList_toList] at htext
  rw [hchars] at hascii
  rw [parseBytes, htext, textOfBytes_object hascii, ← htext]
  simp only [hf.parse_write oneLine_compact]

end Flat

/-! ## Lists of texts -/

section ReadItems

variable {texts : List String} {budget offset : Nat} {rest : List Char} {done : List Json}

/-- The texts of a list as they are written. -/
def textsChars (texts : List String) : List Char :=
  [',', ' '].intercalate (texts.map fun s => plainChars .spaced (.str s))

theorem textsChars_cons_cons (s t : String) (texts : List String) :
    textsChars (s :: t :: texts) =
      plainChars .spaced (.str s) ++ ',' :: ' ' :: textsChars (t :: texts) := by
  simp [textsChars, List.intercalate_cons_cons]

theorem textsChars_singleton (s : String) : textsChars [s] = plainChars .spaced (.str s) := by
  simp [textsChars, List.intercalate]

theorem textsChars_head (hne : texts ≠ []) : ∃ zs, textsChars texts = '"' :: zs := by
  match texts, hne with
  | [s], _ => exact ⟨_, textsChars_singleton s⟩
  | s :: t :: texts, _ => exact ⟨_, textsChars_cons_cons s t texts⟩

theorem skipBlanks_textsChars (hne : texts ≠ []) :
    Cursor.skipBlanks ⟨offset, textsChars texts ++ rest⟩ = ⟨offset, textsChars texts ++ rest⟩ := by
  obtain ⟨zs, hzs⟩ := textsChars_head hne
  rw [hzs, List.cons_append, skipBlanks_of_not_blank (by decide)]

theorem skipBlanks_blank (h : Cursor.skipBlanks ⟨offset + 1, rest⟩ = ⟨offset + 1, rest⟩) :
    Cursor.skipBlanks ⟨offset, ' ' :: rest⟩ = ⟨offset + 1, rest⟩ := by
  simp_all [Cursor.skipBlanks, Cursor.advance]

/-- The texts of a list are read as they were written, behind those that came before. -/
theorem readItems_written (hne : texts ≠ []) (hbudget : texts.length < budget) :
    readItems budget ⟨offset, textsChars texts ++ ']' :: rest⟩ done =
      .ok (done.reverse ++ texts.map .str, ⟨offset + (textsChars texts).length + 1, rest⟩) := by
  induction texts generalizing budget offset done with
  | nil => exact absurd rfl hne
  | cons s texts ih =>
    obtain ⟨budget, rfl⟩ : ∃ b, budget = b + 2 :=
      Nat.exists_eq_add_of_le' (Nat.le_trans (by simp) (Nat.succ_le_of_lt hbudget))
    have hmark {x : Char} (hx : x ∉ [' ', '\t', '\n', '\r']) (n : Nat) (zs : List Char) :
        Cursor.skipBlanks ⟨n, x :: zs⟩ = ⟨n, x :: zs⟩ := skipBlanks_of_not_blank hx
    cases texts with
    | nil =>
      rw [textsChars_singleton, readItems, readValue_text]
      simp [bind, Except.bind, pure, Except.pure, hmark, Cursor.advance]
    | cons t texts =>
      have hne' : t :: texts ≠ [] := List.cons_ne_nil t texts
      have hbudget' : (t :: texts).length < budget + 1 := by simpa using hbudget
      rw [textsChars_cons_cons, List.append_assoc, readItems, readValue_text]
      simp only [bind, Except.bind, List.cons_append, hmark (x := ',') (by decide),
        Cursor.advance, List.drop_succ_cons, List.drop_zero,
        skipBlanks_blank (skipBlanks_textsChars hne'), ih hne' hbudget']
      simp [Nat.add_assoc, Nat.add_comm 2]

end ReadItems

theorem toList_writeItems (texts : List String) (level : Nat) :
    (writeItems .spaced level (texts.map .str)).map String.toList =
      texts.map fun s => plainChars .spaced (.str s) := by
  induction texts with
  | nil => rfl
  | cons s texts ih =>
    have hs : (writeAt .spaced level (.str s)).toList = plainChars .spaced (.str s) :=
      toList_quote .spaced s
    rw [List.map_cons, writeItems, List.map_cons, ih, hs, List.map_cons]

theorem toList_write_texts {texts : List String} (hne : texts ≠ []) :
    (write .spaced (.arr (texts.map .str))).toList = '[' :: (textsChars texts ++ [']']) := by
  obtain ⟨s, texts, rfl⟩ := List.exists_cons_of_ne_nil hne
  rw [write, writeAt, bracket, if_neg (by simp [writeItems])]
  have hnewline (level : Nat) : Style.spaced.newline level = "" := rfl
  simp only [hnewline, String.append_empty, String.toList_append, String.toList_intercalate,
    toList_writeItems]
  rfl

theorem length_le_textsChars (texts : List String) : texts.length ≤ (textsChars texts).length := by
  induction texts with
  | nil => exact Nat.zero_le _
  | cons s texts ih =>
    cases texts with
    | nil => simp [textsChars_singleton, plainChars]
    | cons t texts =>
      rw [textsChars_cons_cons]
      simp only [List.length_append, List.length_cons] at ih ⊢
      omega

/-- A list of texts is read as it was written. -/
theorem parse_write_texts (texts : List String) :
    parse (write .spaced (.arr (texts.map .str))) = .ok (.arr (texts.map .str)) := by
  by_cases hne : texts = []
  · subst hne
    rfl
  · have hlength := length_le_textsChars texts
    have hopening (cs : List Char) : Cursor.skipBlanks ⟨0, '[' :: cs⟩ = ⟨0, '[' :: cs⟩ :=
      skipBlanks_of_not_blank (by decide)
    obtain ⟨zs, hzs⟩ := textsChars_head hne
    have hbudget : texts.length < 2 * ('[' :: (textsChars texts ++ [']'])).length + 1 := by
      simp only [List.length_append, List.length_cons]
      omega
    have hread (n : Nat) : readItems (2 * ('[' :: (textsChars texts ++ [']'])).length + 1)
        ⟨n, textsChars texts ++ [']']⟩ [] =
          .ok (texts.map .str, ⟨n + (textsChars texts).length + 1, []⟩) :=
      readItems_written hne hbudget
    rw [parse, toList_write_texts hne, parseChars, if_neg (by simp)]
    simp only [hopening, readValue, Cursor.advance, List.drop_succ_cons, List.drop_zero,
      skipBlanks_textsChars hne, hread, Except.map]
    rw [hzs]
    rfl

end ReviewDesk.Json
