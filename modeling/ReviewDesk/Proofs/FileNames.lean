import Mathlib
import ReviewDesk.Proofs.Resolving
import ReviewDesk.Service.Table

/-!
# Names of downloads

The name of a download is made from the title of its review, which may be any text. Whatever the
title is, the name is made of small letters, digits, hyphens and underscores, so that nothing in it
ends the header that carries it or leads to another folder. It spells the letters and digits of the
title, and to make a name from a name changes nothing.
-/
namespace ReviewDesk

namespace Report

open Text

/-- Small letters and digits, the hyphen and the underscore. -/
def isStemChar (c : Char) : Bool := c.isLower || c.isDigit || c == '-' || c == '_'

/-! ## Characters -/

theorem isLower_iff {c : Char} : c.isLower = true ↔ 97 ≤ c.toNat ∧ c.toNat ≤ 122 := by
  simp [Char.isLower, UInt32.le_iff_toNat_le, ← Char.toNat_val]

theorem isUpper_iff {c : Char} : c.isUpper = true ↔ 65 ≤ c.toNat ∧ c.toNat ≤ 90 := by
  simp [Char.isUpper, UInt32.le_iff_toNat_le, ← Char.toNat_val]

theorem isDigit_iff {c : Char} : c.isDigit = true ↔ 48 ≤ c.toNat ∧ c.toNat ≤ 57 := by
  simp [Char.isDigit, UInt32.le_iff_toNat_le, ← Char.toNat_val]

theorem isStemChar_iff {c : Char} : isStemChar c = true ↔
    97 ≤ c.toNat ∧ c.toNat ≤ 122 ∨ 48 ≤ c.toNat ∧ c.toNat ≤ 57 ∨ c = '-' ∨ c = '_' := by
  simp [isStemChar, isLower_iff, isDigit_iff, or_assoc]

theorem isDigit_toLower (c : Char) : c.toLower.isDigit = c.isDigit := by
  by_cases hupper : c.isUpper = true
  · have hlower : c.toLower.isLower = true := by
      rw [Char.isLower_toLower_eq_isAlpha, Char.isAlpha, hupper, Bool.true_or]
    rw [Bool.eq_iff_iff, isDigit_iff, isDigit_iff]
    rw [isUpper_iff] at hupper
    rw [isLower_iff] at hlower
    omega
  · rw [Char.toLower_eq_of_not_isUpper hupper]

theorem isAlphanum_toLower (c : Char) : c.toLower.isAlphanum = c.isAlphanum := by
  rw [Char.isAlphanum, Char.isAlphanum, Char.isAlpha_toLower_eq_isAlpha, isDigit_toLower]

theorem isStemChar_toLower {c : Char} (h : isNameChar c = true) : isStemChar c.toLower = true := by
  simp only [isNameChar, Char.isAlphanum, Bool.or_eq_true, beq_iff_eq] at h
  obtain ((halpha | hdigit) | rfl) | rfl := h
  · rw [isStemChar, Char.isLower_toLower_eq_isAlpha, halpha]
    rfl
  · rw [isStemChar, isDigit_toLower, hdigit, Bool.or_true]
    rfl
  · rfl
  · rfl

theorem toLower_of_isStemChar {c : Char} (h : isStemChar c = true) : c.toLower = c := by
  refine Char.toLower_eq_of_not_isUpper fun hupper => ?_
  rw [isUpper_iff] at hupper
  obtain h | h | rfl | rfl := isStemChar_iff.mp h
  · omega
  · omega
  · simp at hupper
  · simp at hupper

theorem toNat_of_isStemChar {c : Char} (h : isStemChar c = true) :
    45 ≤ c.toNat ∧ c.toNat ≤ 122 := by
  obtain h | h | rfl | rfl := isStemChar_iff.mp h
  · omega
  · omega
  · decide
  · decide

theorem toNat_of_isBlank {c : Char} (h : isBlank c = true) : c.toNat ≤ 32 ∨ 133 ≤ c.toNat := by
  simp only [isBlank, isWhiteSpace, Bool.or_eq_true, Bool.and_eq_true, beq_iff_eq,
    decide_eq_true_eq] at h
  omega

theorem not_isBlank_of_isStemChar {c : Char} (h : isStemChar c = true) : isBlank c = false := by
  refine Bool.eq_false_iff.mpr fun hblank => ?_
  have hstem := toNat_of_isStemChar h
  have hcode := toNat_of_isBlank hblank
  omega

theorem not_isAlphanum_of_isBlank {c : Char} (h : isBlank c = true) : c.isAlphanum = false := by
  have hcode := toNat_of_isBlank h
  rw [← Bool.not_eq_true, Char.isAlphanum, Char.isAlpha, Bool.or_eq_true, Bool.or_eq_true,
    isUpper_iff, isLower_iff, isDigit_iff]
  omega

theorem isNameChar_of_isStemChar {c : Char} (h : isStemChar c = true) : isNameChar c = true := by
  simp only [isStemChar, Bool.or_eq_true] at h
  simp only [isNameChar, Char.isAlphanum, Char.isAlpha, Bool.or_eq_true]
  tauto

theorem isAlphanum_of_isStemChar {c : Char} (h : isStemChar c = true) :
    c.isAlphanum = !(c == '_' || c == '-') := by
  by_cases hline : c = '_'
  · subst hline
    rfl
  by_cases hdash : c = '-'
  · subst hdash
    rfl
  have halnum : c.isAlphanum = true := by
    simpa [isNameChar, hline, hdash] using isNameChar_of_isStemChar h
  rw [halnum, beq_false_of_ne hline, beq_false_of_ne hdash]
  rfl

/-! ## Runs of blanks -/

theorem mem_joinBlanks {c : Char} {inRun : Bool} {cs : List Char} (h : c ∈ joinBlanks inRun cs) :
    c = '_' ∨ c ∈ cs ∧ isBlank c = false := by
  induction cs generalizing inRun with
  | nil => cases h
  | cons x cs ih =>
    have hrest {inRun : Bool} (h : c ∈ joinBlanks inRun cs) :
        c = '_' ∨ c ∈ x :: cs ∧ isBlank c = false :=
      (ih h).imp_right (And.imp_left (List.mem_cons_of_mem x))
    rw [joinBlanks] at h
    split at h
    · obtain h | h := List.mem_append.mp h
      · cases inRun with
        | false => exact .inl (List.mem_singleton.mp h)
        | true => cases h
      · exact hrest h
    · rename_i hx
      obtain rfl | h := List.mem_cons.mp h
      · exact .inr ⟨List.mem_cons_self, by simpa using hx⟩
      · exact hrest h

theorem joinBlanks_of_not_isBlank {inRun : Bool} {cs : List Char}
    (h : ∀ c ∈ cs, isBlank c = false) : joinBlanks inRun cs = cs := by
  induction cs generalizing inRun with
  | nil => rfl
  | cons c cs ih =>
    rw [List.forall_mem_cons] at h
    rw [joinBlanks, if_neg (by simp [h.1]), ih h.2]

/-- No letter or digit is lost or made where blanks are joined. -/
theorem filter_isAlphanum_joinBlanks (inRun : Bool) (cs : List Char) :
    (joinBlanks inRun cs).filter Char.isAlphanum = cs.filter Char.isAlphanum := by
  induction cs generalizing inRun with
  | nil => rfl
  | cons c cs ih =>
    rw [joinBlanks]
    split
    · rename_i hblank
      have hnot : ¬c.isAlphanum = true := by simp [not_isAlphanum_of_isBlank hblank]
      rw [List.filter_append, ih, List.filter_cons_of_neg hnot]
      cases inRun <;> rfl
    · rw [List.filter_cons, List.filter_cons, ih]

/-! ## Stems -/

/-- A title as a stem, when it has a letter or a digit. -/
def spelled (title : String) : List Char :=
  (joinBlanks false (title.toList.filter fun c => isNameChar c || isBlank c)).map Char.toLower

/-- The letters and digits of a text. -/
def letters (text : String) : List Char := text.toList.filter Char.isAlphanum

theorem isStemChar_of_mem_spelled {title : String} {c : Char} (h : c ∈ spelled title) :
    isStemChar c = true := by
  obtain ⟨x, hx, rfl⟩ := List.mem_map.mp h
  obtain rfl | ⟨hmem, hblank⟩ := mem_joinBlanks hx
  · rfl
  · have hkept := (List.mem_filter.mp hmem).2
    rw [hblank, Bool.or_false] at hkept
    exact isStemChar_toLower hkept

theorem filter_isAlphanum_spelled (title : String) :
    (spelled title).filter Char.isAlphanum = (letters title).map Char.toLower := by
  have hkept : (title.toList.filter fun c => isNameChar c || isBlank c).filter Char.isAlphanum =
      letters title := by
    rw [letters, List.filter_filter]
    refine List.filter_congr fun c _ => ?_
    cases h : c.isAlphanum <;> simp [isNameChar, h]
  have hsmall : (Char.isAlphanum ∘ Char.toLower) = Char.isAlphanum := funext isAlphanum_toLower
  rw [spelled, List.filter_map, hsmall, filter_isAlphanum_joinBlanks, hkept]

theorem fileStem_eq (title : String) :
    fileStem title = if letters title = [] then "review" else .ofList (spelled title) := by
  have hnone : (spelled title).all (fun c => c == '_' || c == '-') = true ↔ letters title = [] := by
    rw [← List.map_eq_nil_iff (f := Char.toLower), ← filter_isAlphanum_spelled,
      List.filter_eq_nil_iff, List.all_eq_true]
    -- what is neither a letter nor a digit in a stem is one of the two marks
    refine forall₂_congr fun c hc => ?_
    rw [isAlphanum_of_isStemChar (isStemChar_of_mem_spelled hc), Bool.not_eq_true,
      Bool.not_eq_false']
  exact if_congr hnone rfl rfl

theorem spelled_of_isStemChar {text : String} (h : ∀ c ∈ text.toList, isStemChar c = true) :
    spelled text = text.toList := by
  have hkept : (text.toList.filter fun c => isNameChar c || isBlank c) = text.toList := by
    refine List.filter_eq_self.mpr fun c hc => ?_
    rw [isNameChar_of_isStemChar (h c hc), Bool.true_or]
  rw [spelled, hkept, joinBlanks_of_not_isBlank fun c hc => not_isBlank_of_isStemChar (h c hc)]
  exact (List.map_congr_left fun c hc => toLower_of_isStemChar (h c hc)).trans (List.map_id _)

theorem isStemChar_of_mem_fileStem {title : String} {c : Char} (h : c ∈ (fileStem title).toList) :
    isStemChar c = true := by
  rw [fileStem_eq] at h
  split at h
  · revert c
    simp [isStemChar]
  · rw [String.toList_ofList] at h
    exact isStemChar_of_mem_spelled h

theorem letters_fileStem (title : String) :
    letters (fileStem title) =
      if letters title = [] then "review".toList else (letters title).map Char.toLower := by
  rw [fileStem_eq]
  split
  · rfl
  · rw [letters, String.toList_ofList, filter_isAlphanum_spelled]

theorem letters_fileStem_ne_nil (title : String) : letters (fileStem title) ≠ [] := by
  rw [letters_fileStem]
  split
  · simp
  · rename_i h
    exact mt List.map_eq_nil_iff.mp h

/-- A stem is its own stem. -/
theorem fileStem_of_isStemChar {text : String} (h : ∀ c ∈ text.toList, isStemChar c = true)
    (hletters : letters text ≠ []) : fileStem text = text := by
  rw [fileStem_eq, if_neg hletters, spelled_of_isStemChar h, String.ofList_toList]

/-! ## Names -/

/-- The point is the only character that a format adds. -/
theorem isStemChar_of_mem_fileSuffix {f : Format} {c : Char} (h : c ∈ f.fileSuffix.toList) :
    c = '.' ∨ isStemChar c = true := by
  revert c
  cases f <;> simp [Format.fileSuffix, isStemChar]

/-- Nothing in a name ends the quotation, a folder or the line. -/
theorem harmless_of_mem_fileName {r : Review} {f : Format} {c : Char}
    (h : c ∈ (fileName r f).toList) :
    c ≠ '"' ∧ c ≠ '/' ∧ c ≠ '\\' ∧ Files.isLineEnd c = false := by
  have hchar : c = '.' ∨ isStemChar c = true := by
    rw [fileName, String.toList_append, List.mem_append] at h
    exact h.elim (fun h => .inr (isStemChar_of_mem_fileStem h)) isStemChar_of_mem_fileSuffix
  obtain rfl | hstem := hchar
  · decide
  · refine ⟨?_, ?_, ?_, Bool.eq_false_iff.mpr fun hend => ?_⟩
    · rintro rfl
      cases hstem
    · rintro rfl
      cases hstem
    · rintro rfl
      cases hstem
    · have hcode := toNat_of_isStemChar hstem
      simp only [Files.isLineEnd, Bool.or_eq_true, Bool.and_eq_true, beq_iff_eq,
        decide_eq_true_eq] at hend
      omega

end Report

namespace Desk

variable {σ : Type} {d d' : Desk σ} {caller : Account} {id : Uuid} {format : String}

theorem outcome_download_eq_ok_iff {file : Download} :
    outcome (download caller id format) d = (.ok file, d') ↔
      d' = d ∧ ∃ r f, d.store.getReview id = some r ∧
        (r.reviewerId = caller.id ∨ caller.isAdmin = true) ∧
        Report.Format.ofName? (Text.lower format) = some f ∧
        file = ⟨Report.render r f, Report.fileName r f, f.mediaType⟩ := by
  unfold download
  cases Report.Format.ofName? (Text.lower format) with
  | none => simp
  | some f =>
    simp only [outcome_bind_eq_ok_iff, outcome_reviewFor_eq_ok_iff, outcome_pure, Prod.mk.injEq,
      Except.ok.injEq]
    constructor
    · rintro ⟨r, _, ⟨rfl, hr, hmay⟩, rfl, rfl⟩
      exact ⟨rfl, r, f, hr, hmay, rfl, rfl⟩
    · rintro ⟨rfl, r, _, hr, hmay, hf, rfl⟩
      cases hf
      exact ⟨r, _, ⟨rfl, hr, hmay⟩, rfl, rfl⟩

open Report (Format fileStem isStemChar letters)

/-- Whatever the title is, the stem is made of small letters, digits, hyphens and underscores, with
a letter or a digit among them; it is its own stem; and its letters and digits are those of the
title in small letters, or it is the word `review` if the title has none. Whoever may see the review
is given it in each format under the stem and the suffix of the format, and the header of whatever
is given holds the name between quotation marks with no other quotation mark, no mark between
folders and no end of a line. -/
theorem download_name_safe (title : String) :
    (∀ c ∈ (fileStem title).toList, isStemChar c = true) ∧
    (∃ c ∈ (fileStem title).toList, c.isAlphanum = true) ∧
    fileStem (fileStem title) = fileStem title ∧
    (letters title = [] ∧ fileStem title = "review" ∨
      letters title ≠ [] ∧ letters (fileStem title) = (letters title).map Char.toLower) ∧
    (∀ (d : Desk σ) (caller : Account) (id : Uuid) (format : String) (r : Review) (f : Format),
      d.store.getReview id = some r → r.title = title →
      (r.reviewerId = caller.id ∨ caller.isAdmin = true) →
      Format.ofName? (Text.lower format) = some f →
      ∃ file, outcome (download caller id format) d = (.ok file, d) ∧
        file.fileName = fileStem title ++ f.fileSuffix) ∧
    ∀ (d d' : Desk σ) (caller : Account) (id : Uuid) (format : String) (file : Download),
      outcome (download caller id format) d = (.ok file, d') →
      (Service.downloadAnswer file).headers =
        [("content-disposition", "attachment; filename=\"" ++ file.fileName ++ "\"")] ∧
      ∀ c ∈ file.fileName.toList, c ≠ '"' ∧ c ≠ '/' ∧ c ≠ '\\' ∧ Files.isLineEnd c = false := by
  have hstem : ∀ c ∈ (fileStem title).toList, isStemChar c = true :=
    fun _ => Report.isStemChar_of_mem_fileStem
  have hletters := Report.letters_fileStem_ne_nil title
  refine ⟨hstem, ?_, Report.fileStem_of_isStemChar hstem hletters, ?_, ?_, ?_⟩
  · obtain ⟨c, hc⟩ := List.exists_mem_of_ne_nil _ hletters
    exact ⟨c, List.mem_filter.mp hc⟩
  · by_cases hnone : letters title = []
    · exact .inl ⟨hnone, by rw [Report.fileStem_eq, if_pos hnone]⟩
    · exact .inr ⟨hnone, by rw [Report.letters_fileStem, if_neg hnone]⟩
  · rintro d caller id format r f hr rfl hmay hf
    exact ⟨_, outcome_download_eq_ok_iff.mpr ⟨rfl, r, f, hr, hmay, hf, rfl⟩, rfl⟩
  · intro d d' caller id format file hfile
    obtain ⟨-, r, f, -, -, -, rfl⟩ := outcome_download_eq_ok_iff.mp hfile
    exact ⟨rfl, fun _ => Report.harmless_of_mem_fileName⟩

/-- A title that would end the header and begin another. -/
def headerTitle : String := "\"../\r\nSet-Cookie:\u3000ÄB=1\""

/-- A desk with a review of this title. -/
def headerDesk : Desk Unit :=
  { busyDesk with store.reviews := [{ fullReview 3 with title := headerTitle }] }

theorem download_name_safe_header :
    fileStem headerTitle = "_set-cookie_b1" ∧
    letters headerTitle ≠ [] ∧
    ∃ file, outcome (download busyOwner (Uuid.ofNat 2) "CSV") headerDesk = (.ok file, headerDesk) ∧
      file.fileName = "_set-cookie_b1_findings.csv" ∧
      (Service.downloadAnswer file).headers = [("content-disposition",
        "attachment; filename=\"_set-cookie_b1_findings.csv\"")] ∧
      Files.isLineEnd '_' = false := by
  have hstem : fileStem headerTitle = "_set-cookie_b1" := by decide +kernel
  obtain ⟨-, -, -, -, hgiven, hheader⟩ := download_name_safe (σ := Unit) headerTitle
  obtain ⟨file, hfile, hname⟩ := hgiven headerDesk busyOwner (Uuid.ofNat 2) "CSV" _ .csv rfl rfl
    (.inl rfl) (by decide +kernel)
  obtain ⟨hheader, hchars⟩ := hheader _ _ _ _ _ _ hfile
  rw [hstem] at hname
  rw [hname] at hheader hchars
  exact ⟨hstem, by decide +kernel, file, hfile, hname, hheader, (hchars '_' (by decide)).2.2.2⟩

end Desk

end ReviewDesk
