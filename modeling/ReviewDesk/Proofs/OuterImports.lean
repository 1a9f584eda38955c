import Mathlib
import ReviewDesk.Inspection.Layering
import ReviewDesk.Proofs.Scanning

/-!
# Imports from the layers around the domain

What an import from an outer layer is, is said by a grammar: at the beginning of a line an
indentation, a keyword and blanks, perhaps `static` and blanks, some dots, and a dotted name with an
outer layer among its words. The check of a domain file recognises exactly that. It reports the
first such import of the source, and of its name the last outer layer.
-/
namespace ReviewDesk

/-! ## Folders -/

namespace SourcePath

/-- A path goes through a folder: the name of the folder stands alone before a slash, and something
that is not a lone dot comes after. -/
def GoesThrough (folder path : String) : Prop :=
  ∃ before after, path.toList = before ++ folder.toList ++ '/' :: after ∧
    (before = [] ∨ before.getLast? = some '/') ∧
    ∃ piece ∈ after.splitOn '/', piece ≠ [] ∧ piece ≠ ['.']

/-- What stands in front of the last item that is kept. -/
theorem mem_dropLast_filter {α : Type} {p : α → Bool} {xs : List α} {x : α} :
    x ∈ (xs.filter p).dropLast ↔
      p x = true ∧ ∃ front back, xs = front ++ x :: back ∧ ∃ y ∈ back, p y = true := by
  constructor
  · intro h
    obtain ⟨front, back, hsplit⟩ := List.append_of_mem h
    have hne : xs.filter p ≠ [] := fun hnil => by simp [hnil] at h
    have hkept := List.dropLast_append_getLast hne
    rw [hsplit, List.append_assoc, List.cons_append] at hkept
    obtain ⟨front', back', rfl, -, hback⟩ := List.filter_eq_append_iff.mp hkept.symm
    obtain ⟨skipped, rest, rfl, -, hx, hrest⟩ := List.filter_eq_cons_iff.mp hback
    have hlast := List.mem_append_right back (List.mem_singleton_self (List.getLast _ hne))
    rw [← hrest] at hlast
    exact ⟨hx, front' ++ skipped, rest, by simp, _, List.mem_filter.mp hlast⟩
  · rintro ⟨hx, front, back, rfl, y, hy, hkept⟩
    have hne : back.filter p ≠ [] := List.ne_nil_of_mem (List.mem_filter.mpr ⟨hy, hkept⟩)
    rw [List.filter_append, List.filter_cons_of_pos hx,
      List.dropLast_append_of_ne_nil (List.cons_ne_nil _ _), List.dropLast_cons_of_ne_nil hne]
    simp

theorem exists_of_splitOn_eq_cons {cs first : List Char} {others : List (List Char)}
    (h : cs.splitOn '/' = first :: others) (hne : others ≠ []) :
    ∃ rest, cs = first ++ '/' :: rest ∧ rest.splitOn '/' = others := by
  induction cs generalizing first with
  | nil =>
    rw [List.splitOn_nil] at h
    exact absurd (List.cons.inj h).2.symm hne
  | cons c cs ih =>
    rw [List.splitOn_cons_eq_if_modifyHead] at h
    split at h
    · next hc =>
      obtain ⟨rfl, rfl⟩ := List.cons.inj h
      exact ⟨cs, by rw [eq_of_beq hc, List.nil_append], rfl⟩
    · obtain ⟨piece, pieces, hpieces⟩ := List.exists_cons_of_ne_nil (List.splitOn_ne_nil '/' cs)
      rw [hpieces, List.modifyHead_cons] at h
      obtain ⟨rfl, rfl⟩ := List.cons.inj h
      obtain ⟨rest, rfl, hrest⟩ := ih hpieces
      exact ⟨rest, rfl, hrest⟩

/-- A piece of a path begins the path or stands behind a slash. -/
theorem exists_of_splitOn_eq_append {cs piece : List Char} {front back : List (List Char)}
    (h : cs.splitOn '/' = front ++ piece :: back) (hne : back ≠ []) :
    ∃ before after, cs = before ++ piece ++ '/' :: after ∧
      (before = [] ∨ before.getLast? = some '/') ∧ after.splitOn '/' = back := by
  induction front generalizing cs with
  | nil =>
    obtain ⟨after, rfl, hafter⟩ := exists_of_splitOn_eq_cons h hne
    exact ⟨[], after, rfl, .inl rfl, hafter⟩
  | cons first front ih =>
    obtain ⟨rest, rfl, hrest⟩ := exists_of_splitOn_eq_cons h (by simp)
    obtain ⟨before, after, rfl, hbefore, hafter⟩ := ih hrest
    refine ⟨first ++ '/' :: before, after, by simp, .inr ?_, hafter⟩
    obtain rfl | hbefore := hbefore
    · simp
    · simp [List.getLast?_append, List.getLast?_cons, hbefore]

theorem splitOn_append {before piece : List Char} (after : List Char) (hpiece : '/' ∉ piece)
    (hbefore : before = [] ∨ before.getLast? = some '/') :
    ∃ front, (before ++ piece ++ '/' :: after).splitOn '/' = front ++ piece :: after.splitOn '/' := by
  obtain rfl | hbefore := hbefore
  · exact ⟨[], by rw [List.nil_append, List.splitOn_append_cons_self_of_not_mem hpiece]; rfl⟩
  · obtain ⟨earlier, rfl⟩ := List.getLast?_eq_some_iff.mp hbefore
    refine ⟨earlier.splitOn '/', ?_⟩
    rw [List.append_assoc, List.append_assoc, List.singleton_append, List.splitOn_append_cons_self,
      List.splitOn_append_cons_self_of_not_mem hpiece]

theorem mem_folders_iff {folder path : String} (hslash : '/' ∉ folder.toList)
    (hname : folder ≠ "" ∧ folder ≠ ".") :
    folder ∈ folders path ↔ GoesThrough folder path := by
  rw [folders, pieces, mem_dropLast_filter]
  constructor
  · rintro ⟨-, front, back, hpieces, piece, hpiece, hkept⟩
    obtain ⟨front', _, hsplit, -, hrest⟩ := List.map_eq_append_iff.mp hpieces
    obtain ⟨chars, back', rfl, hchars, rfl⟩ := List.map_eq_cons_iff.mp hrest
    obtain ⟨chars', hmem, rfl⟩ := List.mem_map.mp hpiece
    obtain ⟨before, after, hpath, hbefore, hafter⟩ :=
      exists_of_splitOn_eq_append hsplit (List.ne_nil_of_mem hmem)
    refine ⟨before, after, ?_, hbefore, chars', hafter ▸ hmem, ?_⟩
    · rw [hpath, ← hchars, String.toList_ofList]
    · simpa [← String.toList_inj] using hkept
  · rintro ⟨before, after, hpath, hbefore, chars, hmem, hkept⟩
    obtain ⟨front, hsplit⟩ := splitOn_append after hslash hbefore
    refine ⟨by simpa using hname, front.map .ofList, (after.splitOn '/').map .ofList, ?_,
      .ofList chars, List.mem_map_of_mem hmem, ?_⟩
    · rw [hpath, hsplit]
      simp
    · simpa [← String.toList_inj] using hkept

end SourcePath

/-! ## Words and blanks -/

namespace Text

/-- One or more blanks. -/
def IsGap (cs : List Char) : Prop := cs ≠ [] ∧ ∀ c ∈ cs, isBlank c = true

theorem afterBlanks_eq_some_iff {cs rest : List Char} :
    afterBlanks? cs = some rest ↔
      ∃ gap, IsGap gap ∧ cs = gap ++ rest ∧ rest.head?.any isBlank = false := by
  cases cs with
  | nil => simp [afterBlanks?, IsGap]
  | cons c cs =>
    by_cases hc : isBlank c = true
    · rw [afterBlanks?, if_pos hc, Option.some_inj, dropWhile_eq_iff]
      constructor
      · rintro ⟨front, rfl, hfront, hrest⟩
        exact ⟨c :: front, ⟨by simp, by simpa [hc] using hfront⟩, rfl, hrest⟩
      · rintro ⟨_ | ⟨d, gap⟩, ⟨hne, hgap⟩, hcs, hrest⟩
        · exact absurd rfl hne
        · obtain ⟨rfl, rfl⟩ := List.cons.inj hcs
          exact ⟨gap, rfl, fun x hx => hgap x (List.mem_cons_of_mem _ hx), hrest⟩
    · rw [afterBlanks?, if_neg hc]
      constructor
      · rintro ⟨⟩
      · rintro ⟨_ | ⟨d, gap⟩, ⟨hne, hgap⟩, hcs, -⟩
        · exact absurd rfl hne
        · obtain ⟨rfl, -⟩ := List.cons.inj hcs
          exact absurd (hgap c List.mem_cons_self) hc

/-- The code points of the blanks beyond ASCII. -/
def wideBlanks : List Nat :=
  [133, 160, 5760, 8192, 8193, 8194, 8195, 8196, 8197, 8198, 8199, 8200, 8201, 8202, 8232, 8233,
    8239, 8287, 12288]

theorem wideBlanks_between_ranges :
    (letterOrNumberRanges.toList.all fun r => wideBlanks.all fun n => n.blt r.1 || r.2.blt n) =
      true := by
  decide +kernel

theorem inRanges_wideBlanks {n : Nat} (h : n ∈ wideBlanks) :
    inRanges letterOrNumberRanges n = false := by
  rw [inRanges, ← Array.any_toList, List.any_eq_false]
  intro r hr
  have hout := List.all_eq_true.mp (List.all_eq_true.mp wideBlanks_between_ranges r hr) n h
  simp only [Bool.or_eq_true, Nat.blt_eq] at hout
  simp only [Bool.and_eq_true, decide_eq_true_eq]
  omega

theorem not_isWord_of_isBlank {c : Char} (h : isBlank c = true) : isWord c = false := by
  simp only [isBlank, isWhiteSpace, Bool.or_eq_true, Bool.and_eq_true, decide_eq_true_eq,
    beq_iff_eq] at h
  unfold isWord
  split
  · next hascii =>
    have hmem : c.toNat ∈ [9, 10, 11, 12, 13, 28, 29, 30, 31, 32] := by
      simp only [List.mem_cons, List.not_mem_nil, or_false]
      omega
    have hnone : ∀ n ∈ [9, 10, 11, 12, 13, 28, 29, 30, 31, 32],
        ((Char.ofNat n).isAlphanum || Char.ofNat n == '_') = false := by
      decide
    have hc := hnone _ hmem
    rwa [Char.ofNat_toNat] at hc
  · refine inRanges_wideBlanks ?_
    simp only [wideBlanks, List.mem_cons, List.not_mem_nil, or_false]
    omega

/-- A word begins here. -/
def BeginsWord (cs : List Char) : Prop := cs.head?.any isWord = true

theorem BeginsWord.not_blank {cs : List Char} (h : BeginsWord cs) :
    cs.head?.any isBlank = false := by
  cases cs with
  | nil => rfl
  | cons c cs =>
    cases hc : isBlank c with
    | false => exact hc
    | true => simp [BeginsWord, not_isWord_of_isBlank hc] at h

theorem not_beginsWord_dot (cs : List Char) : ¬BeginsWord ('.' :: cs) := by
  simp [BeginsWord, show isWord '.' = false from rfl]

/-- A text of word characters. -/
structure IsWordText (w : String) : Prop where
  ne_empty : w ≠ ""
  chars : ∀ c ∈ w.toList, isWord c = true

theorem IsWordText.beginsWord {w : String} (h : IsWordText w) (rest : List Char) :
    BeginsWord (w.toList ++ rest) := by
  obtain ⟨c, cs, hw⟩ := List.exists_cons_of_ne_nil fun hnil => h.ne_empty (String.toList_inj.mp hnil)
  rw [BeginsWord, hw]
  exact h.chars c (hw ▸ List.mem_cons_self)

theorem IsWordText.word_append {w : String} (h : IsWordText w) {rest : List Char}
    (hrest : ¬BeginsWord rest) : word? (w.toList ++ rest) = some (w, rest) := by
  have hnone : rest.takeWhile isWord = [] := by
    cases rest with
    | nil => rfl
    | cons c rest => exact List.takeWhile_cons_of_neg (by simpa [BeginsWord] using hrest)
  have htake : (w.toList ++ rest).takeWhile isWord = w.toList := by
    rw [List.takeWhile_append_of_pos h.chars, hnone, List.append_nil]
  simp [word?, htake, h.ne_empty]

theorem word_of_not_beginsWord {cs : List Char} (h : ¬BeginsWord cs) : word? cs = none := by
  cases cs with
  | nil => rfl
  | cons c cs =>
    have hc : isWord c = false := by simpa [BeginsWord] using h
    simp [word?, hc]

theorem exists_isWordText {cs : List Char} (h : BeginsWord cs) :
    ∃ w rest, IsWordText w ∧ cs = w.toList ++ rest ∧ ¬BeginsWord rest := by
  obtain ⟨front, hcs, hfront, hrest⟩ := dropWhile_eq_iff.mp (rfl : cs.dropWhile isWord = _)
  have hne : front ≠ [] := by
    rintro rfl
    rw [List.nil_append] at hcs
    rw [hcs, BeginsWord, hrest] at h
    cases h
  refine ⟨.ofList front, cs.dropWhile isWord, ⟨?_, by simpa using hfront⟩, by simpa using hcs, ?_⟩
  · simpa using hne
  · simp [BeginsWord, hrest]

end Text

namespace Inspection

open Text

/-! ## Dotted names -/

/-- The words of the dotted name at the head of the characters, which goes on as long as a word
follows a dot. -/
inductive DottedName : List Char → List String → Prop where
  | last {w : String} {rest : List Char} (hw : IsWordText w) (hrest : ¬BeginsWord rest)
      (hdot : ∀ more, rest = '.' :: more → ¬BeginsWord more) : DottedName (w.toList ++ rest) [w]
  | more {w : String} {rest : List Char} {words : List String} (hw : IsWordText w)
      (hrest : DottedName rest words) : DottedName (w.toList ++ '.' :: rest) (w :: words)

/-- The last outer layer among some words. -/
def lastLayer? (words : List String) : Option String := (words.filter outerLayers.contains).getLast?

theorem DottedName.beginsWord {cs : List Char} {words : List String} (h : DottedName cs words) :
    BeginsWord cs := by
  cases h with
  | last hw => exact hw.beginsWord _
  | more hw => exact hw.beginsWord _

theorem exists_dottedName {cs : List Char} (h : BeginsWord cs) : ∃ words, DottedName cs words := by
  -- on the length, since a whole word is taken at a time
  induction hlength : cs.length using Nat.strong_induction_on generalizing cs with
  | h n ih =>
    obtain ⟨w, rest, hw, rfl, hrest⟩ := exists_isWordText h
    by_cases hmore : ∃ more, rest = '.' :: more ∧ BeginsWord more
    · obtain ⟨more, rfl, hbegins⟩ := hmore
      obtain ⟨words, hwords⟩ := ih more.length (by simp [← hlength]; omega) hbegins rfl
      exact ⟨w :: words, .more hw hwords⟩
    · exact ⟨[w], .last hw hrest fun more hrest hbegins => hmore ⟨more, hrest, hbegins⟩⟩

theorem lastLayer_cons (w : String) (words : List String) (found : Option String) :
    (lastLayer? (w :: words)).or found =
      (lastLayer? words).or (if outerLayers.contains w then some w else found) := by
  unfold lastLayer?
  by_cases hw : outerLayers.contains w = true
  · rw [List.filter_cons_of_pos hw, if_pos hw, List.getLast?_cons]
    cases (words.filter outerLayers.contains).getLast? <;> rfl
  · rw [List.filter_cons_of_neg hw, if_neg hw]

theorem exists_fuel {cs : List Char} (h : BeginsWord cs) {fuel : Nat}
    (hfuel : cs.length ≤ fuel) : ∃ n, fuel = n + 1 := by
  cases cs with
  | nil => cases h
  | cons c cs =>
    rw [List.length_cons] at hfuel
    exact Nat.exists_eq_add_of_le' (by omega)

theorem go_of_not_beginsWord {cs : List Char} (h : ¬BeginsWord cs) (fuel : Nat)
    (found : Option String) : layerInName?.go fuel cs found = found := by
  cases fuel with
  | zero => rfl
  | succ fuel => rw [layerInName?.go, word_of_not_beginsWord h]

/-- The search goes through the words of the name and keeps the last outer layer. -/
theorem DottedName.go_eq {cs : List Char} {words : List String} (h : DottedName cs words)
    {fuel : Nat} (hfuel : cs.length ≤ fuel) (found : Option String) :
    layerInName?.go fuel cs found = (lastLayer? words).or found := by
  -- along the name; the fuel and the layer found so far change at every word
  induction h generalizing fuel found with
  | @last w rest hw hrest hdot =>
    obtain ⟨fuel, rfl⟩ := exists_fuel (hw.beginsWord rest) hfuel
    rw [layerInName?.go, hw.word_append hrest, lastLayer_cons]
    dsimp only
    split
    · next more => exact go_of_not_beginsWord (hdot more rfl) _ _
    · rfl
  | @more w rest words hw hrest ih =>
    obtain ⟨fuel, rfl⟩ := exists_fuel (hw.beginsWord _) hfuel
    rw [layerInName?.go, hw.word_append (not_beginsWord_dot rest), lastLayer_cons]
    refine ih ?_ _
    rw [List.length_append, List.length_cons] at hfuel
    omega

theorem DottedName.layerInName_eq {cs : List Char} {words : List String} (h : DottedName cs words) :
    layerInName? cs = lastLayer? words := by
  rw [layerInName?, h.go_eq le_rfl, Option.or_none]

theorem exists_dottedName_of_layer {cs : List Char} {layer : String}
    (h : layerInName? cs = some layer) :
    ∃ words, DottedName cs words ∧ lastLayer? words = some layer := by
  by_cases hbegins : BeginsWord cs
  · obtain ⟨words, hwords⟩ := exists_dottedName hbegins
    exact ⟨words, hwords, hwords.layerInName_eq.symm.trans h⟩
  · rw [layerInName?, go_of_not_beginsWord hbegins] at h
    cases h

/-! ## Imports -/

/-- What may stand before the name of an import. -/
def IsQualifier (cs : List Char) : Prop := cs = [] ∨ ∃ gap, IsGap gap ∧ cs = "static".toList ++ gap

/-- The words of the name in the import at the head of the characters, which are those from the
beginning of a line. -/
inductive Imports : List Char → List String → Prop where
  | intro {indent gap qualifier dots name : List Char} {keyword : String} {words : List String}
      (hindent : ∀ c ∈ indent, isIndent c = true) (hkeyword : keyword ∈ ["import", "from"])
      (hgap : IsGap gap) (hqualifier : IsQualifier qualifier) (hdots : ∀ c ∈ dots, c = '.')
      (hname : DottedName name words) :
      Imports (indent ++ (keyword.toList ++ (gap ++ (qualifier ++ (dots ++ name))))) words

theorem imported_eq_some_iff {cs rest : List Char} :
    imported? ["import", "from"] cs = some rest ↔
      ∃ indent keyword gap, (∀ c ∈ indent, isIndent c = true) ∧ keyword ∈ ["import", "from"] ∧
        IsGap gap ∧ cs = indent ++ (keyword.toList ++ (gap ++ rest)) ∧
        rest.head?.any isBlank = false := by
  constructor
  · intro h
    obtain ⟨behind, hbehind, hrest⟩ := Option.bind_eq_some_iff.mp h
    obtain ⟨keyword, hkeyword, hafter⟩ := List.exists_of_findSome?_eq_some hbehind
    obtain ⟨gap, hgap, rfl, hhead⟩ := afterBlanks_eq_some_iff.mp hrest
    obtain ⟨indent, hcs, hindent, -⟩ := dropWhile_eq_iff.mp (after_eq_some_iff.mp hafter)
    exact ⟨indent, keyword, gap, hindent, hkeyword, hgap, hcs, hhead⟩
  · rintro ⟨indent, keyword, gap, hindent, hkeyword, hgap, rfl, hhead⟩
    have hline : (indent ++ (keyword.toList ++ (gap ++ rest))).dropWhile isIndent =
        keyword.toList ++ (gap ++ rest) := by
      refine dropWhile_eq_iff.mpr ⟨indent, rfl, hindent, ?_⟩
      fin_cases hkeyword <;> rfl
    have hfind : ["import", "from"].findSome?
        (fun k => after? k (keyword.toList ++ (gap ++ rest))) = some (gap ++ rest) := by
      fin_cases hkeyword <;> rfl
    refine Option.bind_eq_some_iff.mpr ⟨gap ++ rest, ?_, afterBlanks_eq_some_iff.mpr
      ⟨gap, hgap, rfl, hhead⟩⟩
    exact (congrArg (fun line => ["import", "from"].findSome? fun k => after? k line) hline).trans
      hfind

/-- What follows `static` and the blanks after it, if they are there. -/
def unqualified (cs : List Char) : List Char := ((after? "static" cs).bind afterBlanks?).getD cs

theorem exists_qualifier (cs : List Char) :
    ∃ qualifier, IsQualifier qualifier ∧ cs = qualifier ++ unqualified cs := by
  unfold unqualified
  cases hrest : (after? "static" cs).bind afterBlanks? with
  | none => exact ⟨[], .inl rfl, rfl⟩
  | some rest =>
    obtain ⟨behind, hbehind, hafter⟩ := Option.bind_eq_some_iff.mp hrest
    obtain ⟨gap, hgap, rfl, -⟩ := afterBlanks_eq_some_iff.mp hafter
    refine ⟨"static".toList ++ gap, .inr ⟨gap, hgap, rfl⟩, ?_⟩
    rw [after_eq_some_iff.mp hbehind, Option.getD_some, List.append_assoc]

theorem unqualified_static {gap rest : List Char} (hgap : IsGap gap)
    (hrest : rest.head?.any isBlank = false) :
    unqualified ("static".toList ++ gap ++ rest) = rest := by
  have hstatic : after? "static" ("static".toList ++ gap ++ rest) = some (gap ++ rest) :=
    after_eq_some_iff.mpr (List.append_assoc _ _ _)
  have hblanks : afterBlanks? (gap ++ rest) = some rest :=
    afterBlanks_eq_some_iff.mpr ⟨gap, hgap, rfl, hrest⟩
  rw [unqualified, hstatic, Option.bind_some, hblanks, Option.getD_some]

/-- A name that begins with `static` and a blank is that word alone, and no layer. -/
theorem layerInName_static {gap : List Char} (hgap : IsGap gap) (rest : List Char) :
    layerInName? ("static".toList ++ (gap ++ rest)) = none := by
  obtain ⟨c, gap, rfl⟩ := List.exists_cons_of_ne_nil hgap.1
  have hc : isBlank c = true := hgap.2 c List.mem_cons_self
  have hname : DottedName ("static".toList ++ (c :: gap ++ rest)) ["static"] := by
    refine .last ⟨by decide, by simp [isWord]⟩ ?_ ?_
    · simp [BeginsWord, not_isWord_of_isBlank hc]
    · intro more hmore
      obtain ⟨rfl, -⟩ := List.cons.inj hmore
      exact absurd hc (by decide)
  rw [hname.layerInName_eq]
  decide

/-- Dots and a name are taken as they are, unless the name is `static` alone. -/
theorem unqualified_name {dots name : List Char} {layer : String} (hdots : ∀ c ∈ dots, c = '.')
    (hlayer : layerInName? name = some layer) : unqualified (dots ++ name) = dots ++ name := by
  unfold unqualified
  cases hrest : (after? "static" (dots ++ name)).bind afterBlanks? with
  | none => rfl
  | some rest =>
    obtain ⟨behind, hbehind, hafter⟩ := Option.bind_eq_some_iff.mp hrest
    obtain ⟨gap, hgap, rfl, -⟩ := afterBlanks_eq_some_iff.mp hafter
    have hname := after_eq_some_iff.mp hbehind
    -- `static` has been taken for a qualifier, though it may be the name; then it names no layer
    cases dots with
    | nil =>
      rw [List.nil_append] at hname
      rw [hname, layerInName_static hgap] at hlayer
      cases hlayer
    | cons c dots =>
      have hc : c = 's' := (List.cons.inj hname).1
      exact absurd ((hdots c List.mem_cons_self).symm.trans hc) (by decide)

theorem head_dots_not_blank {dots name : List Char} (hdots : ∀ c ∈ dots, c = '.')
    (hname : BeginsWord name) : (dots ++ name).head?.any isBlank = false := by
  cases dots with
  | nil => exact hname.not_blank
  | cons c dots =>
    obtain rfl := hdots c List.mem_cons_self
    rfl

theorem unqualified_append {qualifier dots name : List Char} {layer : String}
    (hqualifier : IsQualifier qualifier) (hdots : ∀ c ∈ dots, c = '.') (hname : BeginsWord name)
    (hlayer : layerInName? name = some layer) :
    unqualified (qualifier ++ (dots ++ name)) = dots ++ name := by
  obtain rfl | ⟨gap, hgap, rfl⟩ := hqualifier
  · rw [List.nil_append, unqualified_name hdots hlayer]
  · exact unqualified_static hgap (head_dots_not_blank hdots hname)

/-- The matcher recognises the imports of the grammar that name an outer layer. -/
theorem outerImport_eq_some_iff {cs : List Char} {layer : String} :
    (∃ more, outerImport? cs = some (layer, more)) ↔
      ∃ words, Imports cs words ∧ lastLayer? words = some layer := by
  constructor
  · rintro ⟨more, h⟩
    obtain ⟨rest, hrest, h⟩ := Option.bind_eq_some_iff.mp h
    obtain ⟨_, hlayer, h⟩ := Option.bind_eq_some_iff.mp h
    obtain ⟨rfl, -⟩ := Prod.mk.inj (Option.some.inj h)
    obtain ⟨indent, keyword, gap, hindent, hkeyword, hgap, rfl, -⟩ := imported_eq_some_iff.mp hrest
    obtain ⟨qualifier, hqualifier, hunqualified⟩ := exists_qualifier rest
    obtain ⟨dots, hdotted, hdots, -⟩ :=
      dropWhile_eq_iff.mp (rfl : (unqualified rest).dropWhile (· == '.') = _)
    obtain ⟨words, hwords, hlast⟩ := exists_dottedName_of_layer hlayer
    refine ⟨words, ?_, hlast⟩
    rw [hunqualified, hdotted]
    exact .intro hindent hkeyword hgap hqualifier (fun c hc => eq_of_beq (hdots c hc)) hwords
  · rintro ⟨_, @⟨indent, gap, qualifier, dots, name, keyword, words, hindent, hkeyword, hgap,
      hqualifier, hdots, hname⟩, hlast⟩
    have hlayer : layerInName? name = some layer := hname.layerInName_eq.trans hlast
    have hhead : (qualifier ++ (dots ++ name)).head?.any isBlank = false := by
      obtain rfl | ⟨gap, -, rfl⟩ := hqualifier
      · rw [List.nil_append, head_dots_not_blank hdots hname.beginsWord]
      · rfl
    have hundotted : (unqualified (qualifier ++ (dots ++ name))).dropWhile (· == '.') = name := by
      rw [unqualified_append hqualifier hdots hname.beginsWord hlayer]
      refine dropWhile_eq_iff.mpr ⟨dots, rfl, fun c hc => beq_iff_eq.mpr (hdots c hc), ?_⟩
      cases name with
      | nil => rfl
      | cons c name =>
        have hne : c ≠ '.' := fun hc => not_beginsWord_dot name (hc ▸ hname.beginsWord)
        simpa using hne
    refine ⟨[], Option.bind_eq_some_iff.mpr ⟨_, imported_eq_some_iff.mpr
      ⟨indent, keyword, gap, hindent, hkeyword, hgap, rfl, hhead⟩, ?_⟩⟩
    exact Option.bind_eq_some_iff.mpr
      ⟨layer, (congrArg layerInName? hundotted).trans hlayer, rfl⟩

/-! ## The report -/

/-- An import from an outer layer begins a line of the source, the one behind `front`. -/
def ImportsOuter (source : String) (front : List Char) (layer : String) : Prop :=
  ∃ rest words, source.toList = front ++ rest ∧ (front = [] ∨ front.getLast? = some '\n') ∧
    Imports rest words ∧ lastLayer? words = some layer

theorem foundAt_iff {source : String} {front : List Char} {layer : String} :
    FoundAt (atLineStart outerImport?) none source.toList front layer ↔
      ImportsOuter source front layer := by
  have hstart : (front.getLast?.or none).all (· == '\n') = true ↔
      front = [] ∨ front.getLast? = some '\n' := by
    rw [Option.or_none, ← List.getLast?_eq_none_iff]
    cases front.getLast? <;> simp
  constructor
  · rintro ⟨rest, more, hsource, hfind⟩
    unfold atLineStart at hfind
    split at hfind
    · next hline =>
      obtain ⟨words, hwords, hlast⟩ := outerImport_eq_some_iff.mp ⟨more, hfind⟩
      exact ⟨rest, words, hsource, hstart.mp hline, hwords, hlast⟩
    · cases hfind
  · rintro ⟨rest, words, hsource, hline, hwords, hlast⟩
    obtain ⟨more, hfind⟩ := outerImport_eq_some_iff.mpr ⟨words, hwords, hlast⟩
    refine ⟨rest, more, hsource, ?_⟩
    rw [atLineStart, if_pos (hstart.mpr hline), hfind]

theorem isDomainFile_iff {path : String} :
    isDomainFile path = true ↔ SourcePath.GoesThrough "domain" path := by
  rw [isDomainFile, List.contains_iff_mem, SourcePath.mem_folders_iff (by decide) (by decide)]

/-- The critical issues of a domain file are those about outer layers. -/
theorem filter_critical {path : String} (h : isDomainFile path = true) (source : String) :
    (layeringIssues path source).filter (·.severity = .critical) =
      ((scan (atLineStart outerImport?) source).take 1).map
        fun hit => place path hit.line (outerLayerIssue hit.value) := by
  rw [layeringIssues, h, Bool.not_true, if_neg Bool.false_ne_true, List.filter_append]
  have houter (hits : List (Hit String)) :
      (hits.map fun hit => place path hit.line (outerLayerIssue hit.value)).filter
          (·.severity = .critical) =
        hits.map fun hit => place path hit.line (outerLayerIssue hit.value) := by
    refine List.filter_eq_self.mpr fun i hi => ?_
    obtain ⟨hit, -, rfl⟩ := List.mem_map.mp hi
    rfl
  have hframework (hits : List (Hit Unit)) :
      (hits.map (place path ·.line frameworkIssue)).filter (·.severity = .critical) = [] := by
    refine List.filter_eq_nil_iff.mpr fun i hi => ?_
    obtain ⟨hit, -, rfl⟩ := List.mem_map.mp hi
    exact Bool.false_ne_true
  rw [houter, hframework, List.append_nil]

theorem atLineStart_nil (before : Option Char) : atLineStart outerImport? before [] = none := by
  unfold atLineStart
  split <;> rfl

theorem exists_critical_iff {path : String} (h : isDomainFile path = true) {source : String} :
    (∃ i ∈ layeringIssues path source, i.severity = .critical) ↔
      ∃ front layer, ImportsOuter source front layer := by
  have hfilter : (∃ i ∈ layeringIssues path source, i.severity = .critical) ↔
      (layeringIssues path source).filter (·.severity = .critical) ≠ [] := by
    simp
  have hscan : (scan (atLineStart outerImport?) source).take 1 ≠ [] ↔
      scan (atLineStart outerImport?) source ≠ [] := by
    simp
  rw [hfilter, filter_critical h, Ne, List.map_eq_nil_iff, ← Ne, hscan,
    scan_ne_nil_iff atLineStart_nil]
  simp only [foundAt_iff]

theorem description_outerLayerIssue (layer : String) :
    (outerLayerIssue layer).description = "Domain code imports from the " ++ layer ++
      " layer. Dependencies must point inward, toward the domain." := by
  have htail : " layer. Dependencies must point inward, toward the domain." =
      " layer. Dependencies must point inward, " ++ "toward the domain." := rfl
  rw [htail, ← String.append_assoc]
  rfl

/-- A domain file has a critical issue about its imports exactly if it has an import from an outer
layer. There is one such issue then, which stands at the line of the first such import and names the
last outer layer of its name. Files of other folders have no issues about imports. -/
theorem outerImport_reported (path source : String) :
    (SourcePath.GoesThrough "domain" path →
      ((∃ i ∈ layeringIssues path source, i.severity = .critical) ↔
        ∃ front layer, ImportsOuter source front layer) ∧
      ∀ front layer, ImportsOuter source front layer →
        (∀ front' layer', ImportsOuter source front' layer' → front.length ≤ front'.length) →
        (layeringIssues path source).filter (·.severity = .critical) =
          [place path (front.count '\n' + 1) (outerLayerIssue layer)] ∧
        (outerLayerIssue layer).description = "Domain code imports from the " ++ layer ++
          " layer. Dependencies must point inward, toward the domain.") ∧
    (¬SourcePath.GoesThrough "domain" path → layeringIssues path source = []) := by
  refine ⟨fun hpath => ⟨exists_critical_iff (isDomainFile_iff.mpr hpath), ?_⟩, fun hpath => ?_⟩
  · intro front layer hfound hfirst
    obtain ⟨later, hscan⟩ := exists_scanFrom_eq_cons atLineStart_nil (foundAt_iff.mpr hfound)
      (fun front' layer' hfound' => hfirst front' layer' (foundAt_iff.mp hfound')) 1
    refine ⟨?_, description_outerLayerIssue layer⟩
    rw [filter_critical (isDomainFile_iff.mpr hpath), scan, hscan, Nat.add_comm]
    rfl
  · have hother : isDomainFile path = false := by
      rw [← Bool.not_eq_true, isDomainFile_iff]
      exact hpath
    rw [layeringIssues, hother]
    rfl

/-- An import without a layer, a static import with two layers in its name, and one below. -/
def layeredSource : String :=
  "import os\n\timport static .shop.interfaces.api.infrastructure.Db;\nfrom application import x"

theorem outerImport_reported_layered :
    (layeringIssues "src/domain/Order.java" layeredSource).filter (·.severity = .critical) =
        [place "src/domain/Order.java" 2 (outerLayerIssue "infrastructure")] ∧
      layeringIssues "src/domain" layeredSource = [] := by
  have hpath : SourcePath.GoesThrough "domain" "src/domain/Order.java" :=
    ⟨"src/".toList, "Order.java".toList, rfl, .inr rfl, "Order.java".toList, by decide, by decide⟩
  have hfile : ¬SourcePath.GoesThrough "domain" "src/domain" :=
    mt isDomainFile_iff.mpr (by decide +kernel)
  have hfound : ImportsOuter layeredSource "import os\n".toList "infrastructure" :=
    foundAt_iff.mp ⟨layeredSource.toList.drop 10, [], rfl, by decide +kernel⟩
  have hnone : ∀ k < 10, atLineStart outerImport? (layeredSource.toList.take k).getLast?
      (layeredSource.toList.drop k) = none := by
    decide +kernel
  refine ⟨?_, (outerImport_reported "src/domain" layeredSource).2 hfile⟩
  refine (((outerImport_reported "src/domain/Order.java" layeredSource).1 hpath).2 _ _ hfound ?_).1
  intro front layer hearlier
  by_contra hlt
  obtain ⟨rest, more, hsource, hfind⟩ := foundAt_iff.mpr hearlier
  have hk := hnone front.length (Nat.lt_of_not_le hlt)
  rw [hsource, List.take_left, List.drop_left, ← Option.or_none (o := front.getLast?), hfind] at hk
  cases hk

end Inspection

end ReviewDesk
