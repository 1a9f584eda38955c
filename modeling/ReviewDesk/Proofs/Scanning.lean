import Mathlib
import ReviewDesk.Text.Scan

/-!
# Where something is found in a text

A scan says on which line each thing begins. The lines of a text are what its line feeds cut it
into, so the number of a line is one more than the number of line feeds in front, and what stands
there is the end of what is in front and the beginning of what follows.
-/
namespace ReviewDesk.Text

variable {α : Type}

/-- What follows a word has the word in front. -/
theorem afterChars_eq_some_iff {word cs rest : List Char} :
    afterChars? word cs = some rest ↔ cs = word ++ rest := by
  fun_induction afterChars? word cs with
  | case1 cs => simp
  | case2 w ws => simp
  | case3 w ws c cs h ih => simp [ih, (eq_of_beq h).symm]
  | case4 w ws c cs h =>
    have hne : c ≠ w := fun he => h (by simp [he])
    simp [hne]

theorem after_eq_some_iff {word : String} {cs rest : List Char} :
    after? word cs = some rest ↔ cs = word.toList ++ rest :=
  afterChars_eq_some_iff

/-- What is left when characters of a class are dropped from the front. -/
theorem dropWhile_eq_iff {p : Char → Bool} {cs rest : List Char} :
    cs.dropWhile p = rest ↔
      ∃ front, cs = front ++ rest ∧ (∀ c ∈ front, p c = true) ∧ rest.head?.any p = false := by
  constructor
  · rintro rfl
    refine ⟨cs.takeWhile p, List.takeWhile_append_dropWhile.symm,
      fun c hc => List.mem_takeWhile_imp hc, ?_⟩
    have hhead := List.head?_dropWhile_not p cs
    cases hrest : (cs.dropWhile p).head? with
    | none => rfl
    | some c => simpa [hrest] using hhead
  · rintro ⟨front, rfl, hfront, hrest⟩
    rw [List.dropWhile_append_of_pos hfront]
    cases rest with
    | nil => rfl
    | cons c rest => exact List.dropWhile_cons_of_neg (by simpa using hrest)

/-- The lines of a text. -/
def lines (source : String) : List (List Char) := source.toList.splitOn '\n'

/-- The rest of a line. -/
def lineRest (cs : List Char) : List Char := cs.takeWhile (· != '\n')

theorem lineRest_feed (cs : List Char) : lineRest ('\n' :: cs) = [] := rfl

theorem lineRest_cons {c : Char} (hc : c ≠ '\n') (cs : List Char) :
    lineRest (c :: cs) = c :: lineRest cs := by
  simp [lineRest, hc]

theorem head_splitOn (cs : List Char) : (cs.splitOn '\n').head? = some (lineRest cs) := by
  induction cs with
  | nil => rfl
  | cons c rest ih =>
    rw [List.splitOn_cons_eq_if_modifyHead]
    by_cases hc : c = '\n'
    · rw [hc, lineRest_feed]
      rfl
    · rw [if_neg (by simpa using hc), List.head?_modifyHead, ih, lineRest_cons hc]
      rfl

/-- A text that ends with a line feed still does, or is empty, without its first character. -/
theorem getLast_of_cons {c : Char} {more : List Char}
    (h : (c :: more).getLast?.all (· == '\n') = true) :
    more.getLast?.all (· == '\n') = true := by
  rw [List.getLast?_cons] at h
  cases hmore : more.getLast? with
  | none => rfl
  | some x => simpa [hmore] using h

/-- The line of a place is the end of what is in front of it and the rest of the line behind. At the
beginning of a line nothing is in front. -/
theorem exists_line (front rest : List Char) :
    ∃ begun, ((front ++ rest).splitOn '\n')[front.count '\n']? = some (begun ++ lineRest rest) ∧
      (front.getLast?.all (· == '\n') = true → begun = []) := by
  induction front with
  | nil =>
    refine ⟨[], ?_, fun _ => rfl⟩
    rw [List.nil_append, List.count_nil, ← List.head?_eq_getElem?, head_splitOn, List.nil_append]
  | cons c more ih =>
    obtain ⟨begun, hline, hstart⟩ := ih
    rw [List.cons_append, List.splitOn_cons_eq_if_modifyHead]
    by_cases hc : c = '\n'
    · exact ⟨begun, by simpa [hc] using hline, fun hlast => hstart (getLast_of_cons hlast)⟩
    · rw [if_neg (by simpa using hc), List.count_cons_of_ne hc]
      cases hcount : more.count '\n' with
      | zero =>
        -- The line of the place is the first, and it begins with this character.
        rw [hcount] at hline
        refine ⟨c :: begun, by simp [hline], fun hlast => ?_⟩
        have hnone : '\n' ∉ more := List.count_eq_zero.mp hcount
        rw [List.getLast?_cons] at hlast
        cases hmore : more.getLast? with
        | none => simp [hmore, hc] at hlast
        | some x =>
          obtain rfl : x = '\n' := by simpa [hmore] using hlast
          exact absurd (List.mem_of_getLast? hmore) hnone
      | succ k =>
        rw [hcount] at hline
        exact ⟨begun, by simpa using hline, fun hlast => hstart (getLast_of_cons hlast)⟩

theorem line_add_count (c : Char) (front : List Char) (line : Nat) :
    (if c == '\n' then line + 1 else line) + front.count '\n' =
      line + (c :: front).count '\n' := by
  rw [List.count_cons]
  split <;> omega

/-- A matcher recognises something in the characters behind `front`. -/
def FoundAt (find : Matcher α) (before : Option Char) (cs front : List Char) (value : α) : Prop :=
  ∃ rest more, cs = front ++ rest ∧ find (front.getLast?.or before) rest = some (value, more)

theorem foundAt_cons {find : Matcher α} {before : Option Char} {c : Char} {cs front : List Char}
    {value : α} : FoundAt find before (c :: cs) (c :: front) value ↔
      FoundAt find (some c) cs front value := by
  have hlast : (c :: front).getLast?.or before = front.getLast?.or (some c) := by
    rw [List.getLast?_cons]
    cases front.getLast? <;> rfl
  simp only [FoundAt, List.cons_append, List.cons.injEq, true_and, hlast]

/-- Something stands in a text where the matcher recognises it, on the line that is given. -/
def Stands (find : Matcher α) (before : Option Char) (line : Nat) (cs : List Char) (hit : Hit α) :
    Prop :=
  ∃ front rest more, cs = front ++ rest ∧ hit.line = line + front.count '\n' ∧
    find (front.getLast?.or before) rest = some (hit.value, more)

theorem stands_iff {find : Matcher α} {before : Option Char} {line : Nat} {cs : List Char}
    {hit : Hit α} : Stands find before line cs hit ↔
      ∃ front, FoundAt find before cs front hit.value ∧ hit.line = line + front.count '\n' := by
  constructor
  · rintro ⟨front, rest, more, hcs, hline, hfind⟩
    exact ⟨front, ⟨rest, more, hcs, hfind⟩, hline⟩
  · rintro ⟨front, ⟨rest, more, hcs, hfind⟩, hline⟩
    exact ⟨front, rest, more, hcs, hline, hfind⟩

theorem stands_cons {find : Matcher α} {before : Option Char} {line : Nat} {c : Char}
    {cs : List Char} {hit : Hit α}
    (h : Stands find (some c) (if c == '\n' then line + 1 else line) cs hit) :
    Stands find before line (c :: cs) hit := by
  obtain ⟨front, hfound, hline⟩ := stands_iff.mp h
  refine stands_iff.mpr ⟨c :: front, foundAt_cons.mpr hfound, ?_⟩
  rw [hline, line_add_count]

/-- All that is found stands in the text. -/
theorem stands_of_mem_scanFrom {find : Matcher α} {skip : Nat} {before : Option Char} {line : Nat}
    {cs : List Char} {hit : Hit α} (h : hit ∈ scanFrom find skip before line cs) :
    Stands find before line cs hit := by
  fun_induction scanFrom find skip before line cs with
  | case1 => cases h
  | case2 before line skip c cs ih => exact stands_cons (ih h)
  | case3 before line c cs next value rest hfind ih =>
    rcases List.mem_cons.mp h with rfl | h
    · exact ⟨[], c :: cs, rest, rfl, rfl, hfind⟩
    · exact stands_cons (ih h)
  | case4 before line c cs next hfind ih => exact stands_cons (ih h)

theorem stands_of_mem_scan {find : Matcher α} {source : String} {hit : Hit α}
    (h : hit ∈ scan find source) : Stands find none 1 source.toList hit :=
  stands_of_mem_scanFrom h

/-- Nothing is recognised in front of a place. -/
def FirstAt (find : Matcher α) (before : Option Char) (cs front : List Char) : Prop :=
  ∀ front' value, FoundAt find before cs front' value → front.length ≤ front'.length

theorem exists_first {find : Matcher α} {before : Option Char} {cs front : List Char} {value : α}
    (h : FoundAt find before cs front value) :
    ∃ front value, FoundAt find before cs front value ∧ FirstAt find before cs front := by
  classical
  have hexists : ∃ n front value, FoundAt find before cs front value ∧ front.length = n :=
    ⟨_, front, value, h, rfl⟩
  obtain ⟨front, value, hfound, hlength⟩ := Nat.find_spec hexists
  refine ⟨front, value, hfound, fun front' value' hfound' => ?_⟩
  rw [hlength]
  exact Nat.find_min' hexists ⟨front', value', hfound', rfl⟩

/-- A scan begins with what is recognised first. -/
theorem exists_scanFrom_eq_cons {find : Matcher α} (hend : ∀ b, find b [] = none)
    {before : Option Char} {cs front : List Char} {value : α}
    (hfound : FoundAt find before cs front value) (hfirst : FirstAt find before cs front)
    (line : Nat) : ∃ later,
      scanFrom find 0 before line cs = ⟨line + front.count '\n', value⟩ :: later := by
  induction front generalizing before line cs with
  | nil =>
    obtain ⟨_, more, rfl, hfind⟩ := hfound
    replace hfind : find before cs = some (value, more) := hfind
    cases cs with
    | nil => simp [hend] at hfind
    | cons c rest => simp [scanFrom, hfind]
  | cons c front ih =>
    obtain ⟨rest, more, rfl, -⟩ := id hfound
    have hnone : find before (c :: (front ++ rest)) = none := by
      cases hfind : find before (c :: (front ++ rest)) with
      | none => rfl
      | some found =>
        have := hfirst [] found.1 ⟨_, found.2, rfl, hfind⟩
        simp at this
    have hrest : FirstAt find (some c) (front ++ rest) front := fun front' value' hfound' => by
      simpa using hfirst (c :: front') value' (foundAt_cons.mpr hfound')
    obtain ⟨later, hlater⟩ := ih (foundAt_cons.mp hfound) hrest
      (if c == '\n' then line + 1 else line)
    refine ⟨later, ?_⟩
    rw [List.cons_append, scanFrom, hnone]
    rw [line_add_count] at hlater
    exact hlater

/-- A scan finds something exactly if there is something to recognise. -/
theorem scan_ne_nil_iff {find : Matcher α} (hend : ∀ b, find b [] = none) {source : String} :
    scan find source ≠ [] ↔ ∃ front value, FoundAt find none source.toList front value := by
  constructor
  · intro hne
    obtain ⟨hit, hhit⟩ := List.exists_mem_of_ne_nil _ hne
    obtain ⟨front, hfound, -⟩ := stands_iff.mp (stands_of_mem_scan hhit)
    exact ⟨front, hit.value, hfound⟩
  · rintro ⟨front, value, hfound⟩
    obtain ⟨first, value, hfound, hfirst⟩ := exists_first hfound
    obtain ⟨later, hscan⟩ := exists_scanFrom_eq_cons hend hfound hfirst 1
    rw [scan, hscan]
    exact List.cons_ne_nil _ _

/-- What is found later is not on an earlier line. -/
theorem pairwise_scanFrom (find : Matcher α) (skip : Nat) (before : Option Char) (line : Nat)
    (cs : List Char) : (scanFrom find skip before line cs).Pairwise (·.line ≤ ·.line) := by
  fun_induction scanFrom find skip before line cs with
  | case1 => exact .nil
  | case2 before line skip c cs ih => exact ih
  | case3 before line c cs next value rest hfind ih =>
    refine List.pairwise_cons.mpr ⟨fun hit hhit => ?_, ih⟩
    obtain ⟨front, _, _, -, hline, -⟩ := stands_of_mem_scanFrom hhit
    have hnext : line ≤ next := by
      dsimp only [next]
      split <;> omega
    dsimp only
    omega
  | case4 before line c cs next hfind ih => exact ih

/-- A line that shows what a matcher recognises on it. -/
def Shown (shows : List Char → Prop) (find : Matcher α) : Prop :=
  ∀ before cs value more, find before cs = some (value, more) →
    ∀ begun, (before.all (· == '\n') = true → begun = []) → shows (begun ++ lineRest cs)

/-- The line of what is found is one of the lines of the text, and shows it. -/
theorem exists_line_of_mem_scan {shows : List Char → Prop} {find : Matcher α} {source : String}
    {hit : Hit α} (hfind : Shown shows find) (h : hit ∈ scan find source) :
    1 ≤ hit.line ∧ hit.line ≤ source.toList.count '\n' + 1 ∧
      ∃ line, (lines source)[hit.line - 1]? = some line ∧ shows line := by
  obtain ⟨front, rest, more, hsource, hline, hfound⟩ := stands_of_mem_scan h
  obtain ⟨begun, hcut, hstart⟩ := exists_line front rest
  rw [Option.or_none] at hfound
  rw [lines, hsource, hline, List.count_append, Nat.add_sub_cancel_left]
  exact ⟨by omega, by omega, _, hcut, hfind _ _ _ _ hfound begun hstart⟩

/-- A word stands on one line. -/
theorem prefix_lineRest {word cs : List Char} (hword : '\n' ∉ word) (h : word <+: cs) :
    word <+: lineRest cs := by
  obtain ⟨rest, rfl⟩ := h
  have hall : ∀ c ∈ word, (c != '\n') = true := fun c hc =>
    bne_iff_ne.mpr fun he => hword (he ▸ hc)
  rw [lineRest, List.takeWhile_append_of_pos hall]
  exact List.prefix_append _ _

/-- A matcher that begins with one of some words shows the word on the line. -/
theorem shown_of_prefix {find : Matcher α} (words : List String)
    (hwords : ∀ w ∈ words, '\n' ∉ w.toList)
    (h : ∀ before cs value more, find before cs = some (value, more) →
      ∃ w ∈ words, ∃ rest, after? w cs = some rest) :
    Shown (fun line => ∃ w ∈ words, w.toList <:+: line) find := by
  intro before cs value more hfind begun _
  obtain ⟨w, hw, rest, hrest⟩ := h before cs value more hfind
  have hprefix : w.toList <+: cs := ⟨rest, (after_eq_some_iff.mp hrest).symm⟩
  refine ⟨w, hw, ?_⟩
  exact (prefix_lineRest (hwords w hw) hprefix).isInfix.trans (List.suffix_append _ _).isInfix

/-- Blanks that indent a line. -/
def isIndent (c : Char) : Bool := c == ' ' || c == '\t'

theorem dropWhile_lineRest (cs : List Char) :
    (lineRest cs).dropWhile isIndent = lineRest (cs.dropWhile isIndent) := by
  induction cs with
  | nil => rfl
  | cons c rest ih =>
    by_cases hc : isIndent c = true
    · have hne : c ≠ '\n' := by
        rintro rfl
        revert hc
        decide
      rw [List.dropWhile_cons_of_pos hc, ← ih, lineRest_cons hne, List.dropWhile_cons_of_pos hc]
    · rw [List.dropWhile_cons_of_neg hc]
      by_cases hfeed : c = '\n'
      · rw [hfeed, lineRest_feed, List.dropWhile_nil]
      · rw [lineRest_cons hfeed, List.dropWhile_cons_of_neg hc]

/-- At the beginning of a line, a matcher that begins with one of some words behind an indentation
shows the line to begin so. -/
theorem shown_atLineStart {find : List Char → Option (α × List Char)} (words : List String)
    (hwords : ∀ w ∈ words, '\n' ∉ w.toList)
    (h : ∀ cs value more, find cs = some (value, more) →
      ∃ w ∈ words, ∃ rest, after? w (cs.dropWhile isIndent) = some rest) :
    Shown (fun line => ∃ w ∈ words, w.toList <+: line.dropWhile isIndent) (atLineStart find) := by
  intro before cs value more hfind begun hbegun
  unfold atLineStart at hfind
  split at hfind
  · rename_i hstart
    obtain ⟨w, hw, rest, hrest⟩ := h cs value more hfind
    have hprefix : w.toList <+: cs.dropWhile isIndent := ⟨rest, (after_eq_some_iff.mp hrest).symm⟩
    rw [hbegun hstart, List.nil_append, dropWhile_lineRest]
    exact ⟨w, hw, prefix_lineRest (hwords w hw) hprefix⟩
  · cases hfind

theorem eq_some_of_atWordStart {find : List Char → Option (α × List Char)} {before : Option Char}
    {cs : List Char} {found : α × List Char} (h : atWordStart find before cs = some found) :
    find cs = some found := by
  unfold atWordStart at h
  split at h
  · cases h
  · exact h

end ReviewDesk.Text
