import Mathlib
import ReviewDesk.Report.Html

/-!
# Pages that text cannot break out of

A page is a frame with gaps. The frame comes from the shape of a review: whether it has a score, and
of each finding the severity, the category and which texts it has. The texts of the review stand in
the gaps, escaped, and every gap is outside of all tags. So the tags of a page are those of its
frame, whatever the texts are.
-/
namespace ReviewDesk.Report.Html

/-! ## Tags -/

/-- Where a reader of tags is: what it has of the tag that is open, the last character first, and
the tags before it, the last one first. -/
structure TagScan where
  current : Option (List Char) := none
  found : List String := []
  deriving Repr, DecidableEq

/-- A tag goes from a `<` to the next `>`. -/
def TagScan.step (s : TagScan) (c : Char) : TagScan :=
  match s.current with
  | none => if c = '<' then { s with current := some [c] } else s
  | some cs =>
    if c = '>' then { current := none, found := .ofList (c :: cs).reverse :: s.found }
    else { s with current := some (c :: cs) }

/-- The tags of a page, in their order. -/
def tags (page : String) : List String := (page.toList.foldl TagScan.step {}).found.reverse

/-! ## Character references -/

def references : List (String × Char) :=
  [("amp", '&'), ("lt", '<'), ("gt", '>'), ("quot", '"'), ("#x27", '\'')]

/-- What a reference stands for; one that is not known stands for itself. -/
def resolve (name : List Char) : List Char :=
  match references.lookup (.ofList name) with
  | some c => [c]
  | none => '&' :: name ++ [';']

/-- Reads a text with references. `name` is what has been read of the one that is open, the last
character first. -/
def unescapeChars (name : Option (List Char)) : List Char → List Char
  | [] => name.elim [] fun cs => '&' :: cs.reverse
  | c :: rest =>
    match name with
    | none => if c = '&' then unescapeChars (some []) rest else c :: unescapeChars none rest
    | some cs =>
      if c = ';' then resolve cs.reverse ++ unescapeChars none rest
      else if c = '&' then '&' :: cs.reverse ++ unescapeChars (some []) rest
      else unescapeChars (some (c :: cs)) rest

def unescape (s : String) : String := .ofList (unescapeChars none s.toList)

theorem toList_escape (s : String) :
    (escape s).toList = s.toList.flatMap fun c => (escapeChar c).toList := by
  rw [escape, String.toList_join, List.flatMap_map]

/-- No character of markup is left in a text that was escaped. -/
theorem not_markup_of_mem_escape {s : String} {c : Char} (h : c ∈ (escape s).toList) :
    c ≠ '<' ∧ c ≠ '>' ∧ c ≠ '"' ∧ c ≠ '\'' := by
  rw [toList_escape] at h
  obtain ⟨d, -, hc⟩ := List.mem_flatMap.mp h
  have hplain (text : String)
      (htext : text.toList.all (fun c => c != '<' && c != '>' && c != '"' && c != '\'') = true)
      (hc : c ∈ text.toList) : c ≠ '<' ∧ c ≠ '>' ∧ c ≠ '"' ∧ c ≠ '\'' := by
    simpa [and_assoc] using List.all_eq_true.mp htext c hc
  unfold escapeChar at hc
  split at hc
  · exact hplain _ (by decide) hc
  · exact hplain _ (by decide) hc
  · exact hplain _ (by decide) hc
  · exact hplain _ (by decide) hc
  · exact hplain _ (by decide) hc
  · next hamp hlt hgt hquote hapostrophe =>
    obtain rfl : c = d := by simpa using hc
    exact ⟨hlt, hgt, hquote, hapostrophe⟩

/-- What a character is written as is read as that character. -/
theorem unescapeChars_escapeChar (c : Char) (rest : List Char) :
    unescapeChars none ((escapeChar c).toList ++ rest) = c :: unescapeChars none rest := by
  unfold escapeChar
  split
  · rfl
  · rfl
  · rfl
  · rfl
  · rfl
  · next hamp _ _ _ _ =>
    have hne : c ≠ '&' := hamp
    simp [unescapeChars, hne]

theorem unescape_escape (s : String) : unescape (escape s) = s := by
  have hchars (cs : List Char) :
      unescapeChars none (cs.flatMap fun c => (escapeChar c).toList) = cs := by
    induction cs with
    | nil => rfl
    | cons c cs ih => rw [List.flatMap_cons, unescapeChars_escapeChar, ih]
  rw [unescape, toList_escape, hchars, String.ofList_toList]

/-! ## Frames -/

/-- The markup of a page, with a gap for each text. -/
abbrev Frame := List (Option String)

/-- A frame with texts in its gaps. -/
def fill : Frame → List String → String
  | [], _ => ""
  | some markup :: rest, texts => markup ++ fill rest texts
  | none :: rest, [] => fill rest []
  | none :: rest, text :: texts => text ++ fill rest texts

def gaps (frame : Frame) : Nat := frame.countP Option.isNone

def Piece.markup? : Piece → Option String
  | markup s => some s
  | text _ => none

def Piece.text? : Piece → Option String
  | markup _ => none
  | text s => some s

/-- The frame of pieces. -/
def outline (pieces : List Piece) : Frame := pieces.map Piece.markup?

theorem join_write (pieces : List Piece) :
    String.join (pieces.map Piece.write) =
      fill (outline pieces) ((pieces.filterMap Piece.text?).map escape) := by
  induction pieces with
  | nil => rfl
  | cons piece pieces ih =>
    rw [List.map_cons, String.join_cons, ih]
    cases piece <;> rfl

theorem gaps_outline (pieces : List Piece) :
    gaps (outline pieces) = (pieces.filterMap Piece.text?).length := by
  induction pieces with
  | nil => rfl
  | cons piece pieces ih =>
    unfold gaps outline at *
    cases piece <;> simp [Piece.markup?, Piece.text?, List.filterMap_cons, ih]

/-! ## Tags of a frame -/

namespace TagScan

/-- Reads the markup of a frame; a gap inside of a tag is refused. -/
def along (s : TagScan) : Frame → Option TagScan
  | [] => some s
  | some markup :: rest => (markup.toList.foldl step s).along rest
  | none :: rest => if s.current.isNone then s.along rest else none

theorem along_append (s : TagScan) (a b : Frame) :
    s.along (a ++ b) = (s.along a).bind (·.along b) := by
  induction a generalizing s with
  | nil => rfl
  | cons piece a ih =>
    cases piece with
    | some markup => exact ih _
    | none =>
      rw [List.cons_append, along, along]
      split
      · exact ih s
      · rfl

/-- Outside of tags, text without `<` is passed over. -/
theorem foldl_text {s : TagScan} (hs : s.current = none) {cs : List Char}
    (hcs : ∀ c ∈ cs, c ≠ '<') : cs.foldl step s = s := by
  induction cs with
  | nil => rfl
  | cons c cs ih =>
    obtain ⟨hc, hrest⟩ := List.forall_mem_cons.mp hcs
    have hstep : s.step c = s := by simp [step, hs, hc]
    rw [List.foldl_cons, hstep, ih hrest]

/-- Texts without `<` make no difference to a reader of tags. -/
theorem foldl_fill {s s' : TagScan} {frame : Frame} (h : s.along frame = some s')
    {texts : List String} (htexts : ∀ t ∈ texts, ∀ c ∈ t.toList, c ≠ '<') :
    (fill frame texts).toList.foldl step s = s' := by
  fun_induction fill frame texts generalizing s with
  | case1 texts => exact Option.some.inj h
  | case2 texts markup rest ih =>
    rw [String.toList_append, List.foldl_append]
    exact ih h htexts
  | case3 rest ih =>
    rw [along] at h
    split at h
    · exact ih h htexts
    · cases h
  | case4 rest text texts ih =>
    rw [along] at h
    split at h
    · next hs =>
      obtain ⟨htext, hrest⟩ := List.forall_mem_cons.mp htexts
      rw [String.toList_append, List.foldl_append,
        foldl_text (Option.isNone_iff_eq_none.mp hs) htext]
      exact ih h hrest
    · cases h

/-- What was found before stays at the end of what is found. -/
def after (found : List String) (s : TagScan) : TagScan := { s with found := s.found ++ found }

theorem step_after (found : List String) (s : TagScan) (c : Char) :
    (s.after found).step c = (s.step c).after found := by
  obtain ⟨current, known⟩ := s
  unfold step after
  cases current with
  | none => by_cases hc : c = '<' <;> simp [hc]
  | some cs => by_cases hc : c = '>' <;> simp [hc]

theorem foldl_after (found : List String) (s : TagScan) (cs : List Char) :
    cs.foldl step (s.after found) = (cs.foldl step s).after found := by
  induction cs generalizing s with
  | nil => rfl
  | cons c cs ih => rw [List.foldl_cons, step_after, ih, List.foldl_cons]

theorem along_after (found : List String) (s : TagScan) (frame : Frame) :
    (s.after found).along frame = (s.along frame).map (after found) := by
  induction frame generalizing s with
  | nil => rfl
  | cons piece frame ih =>
    cases piece with
    | some markup => rw [along, foldl_after, ih, along]
    | none =>
      rw [along, along]
      have hcurrent : (s.after found).current = s.current := rfl
      rw [hcurrent]
      split
      · exact ih s
      · rfl

end TagScan

/-- A frame that opens no tag without closing it, with its gaps outside of all tags. -/
def Closed (frame : Frame) : Prop := (TagScan.along {} frame).any (·.current.isNone) = true

instance : DecidablePred Closed := fun _ => inferInstanceAs (Decidable (_ = true))

namespace Closed

theorem along_eq {frame : Frame} (h : Closed frame) (found : List String) :
    ∃ found', TagScan.along { found } frame = some { found := found' } := by
  have hafter : ({ found } : TagScan) = TagScan.after found {} := rfl
  rw [hafter, TagScan.along_after]
  unfold Closed at h
  obtain halong | ⟨⟨current, found'⟩, halong⟩ := Option.eq_none_or_eq_some (TagScan.along {} frame)
  · rw [halong] at h
    cases h
  · rw [halong] at h ⊢
    obtain rfl : current = none := Option.isNone_iff_eq_none.mp h
    exact ⟨_, rfl⟩

theorem append {a b : Frame} (ha : Closed a) (hb : Closed b) : Closed (a ++ b) := by
  obtain ⟨found, ha⟩ := ha.along_eq []
  obtain ⟨found', hb⟩ := hb.along_eq found
  have halong : TagScan.along {} (a ++ b) = some { found := found' } := by
    rw [TagScan.along_append, show TagScan.along {} a = some { found } from ha, Option.bind_some,
      hb]
  rw [Closed, halong]
  rfl

theorem flatMap {α : Type} {f : α → Frame} {xs : List α} (h : ∀ x ∈ xs, Closed (f x)) :
    Closed (xs.flatMap f) := by
  induction xs with
  | nil => rfl
  | cons x xs ih =>
    obtain ⟨hx, hxs⟩ := List.forall_mem_cons.mp h
    exact hx.append (ih hxs)

end Closed

/-- Whatever stands in the gaps, the tags are the same. -/
theorem tags_fill {frame : Frame} (h : Closed frame) {texts texts' : List String}
    (htexts : ∀ t ∈ texts, ∀ c ∈ t.toList, c ≠ '<')
    (htexts' : ∀ t ∈ texts', ∀ c ∈ t.toList, c ≠ '<') :
    tags (fill frame texts) = tags (fill frame texts') := by
  obtain ⟨found, halong⟩ := h.along_eq []
  rw [tags, tags, TagScan.foldl_fill halong htexts, TagScan.foldl_fill halong htexts']

/-! ## Shapes -/

/-- A text, if there is one that says something. -/
def given (text : Option String) : List String := text.toList.filter (!·.isEmpty)

def isGiven (text : Option String) : Bool := text.any (!·.isEmpty)

/-- What the markup of a finding depends on. -/
structure FindingShape where
  severity : Severity
  category : Category
  isResolved : Bool
  hasSnippet : Bool
  hasFix : Bool
  hasExplanation : Bool
  deriving Repr, DecidableEq

def FindingShape.of (f : Finding) : FindingShape where
  severity := f.severity
  category := f.category
  isResolved := f.isResolved
  hasSnippet := isGiven f.snippet
  hasFix := isGiven f.suggestedFix
  hasExplanation := isGiven f.explanation

/-- What the markup of a page depends on. -/
structure Shape where
  scored : Bool
  findings : List FindingShape
  deriving Repr, DecidableEq

def Shape.of (r : Review) : Shape := ⟨r.score.isSome, r.findings.map FindingShape.of⟩

/-- A finding that has nothing but a shape. -/
def FindingShape.sample (s : FindingShape) : Finding where
  id := Uuid.ofNat 0
  title := ""
  severity := s.severity
  category := s.category
  snippet := if s.hasSnippet then some "-" else none
  suggestedFix := if s.hasFix then some "-" else none
  explanation := if s.hasExplanation then some "-" else none
  isResolved := s.isResolved

/-- A review that has nothing but a shape. -/
def Shape.sample (s : Shape) : Review where
  id := Uuid.ofNat 0
  reviewerId := Uuid.ofNat 0
  title := ""
  findings := s.findings.map FindingShape.sample
  score := if s.scored then some ⟨0, ⟨0, 0, 0, 0, 0⟩, ""⟩ else none
  createdAt := .utc 0

/-- The texts that a finding brings to a page. -/
def findingTexts (f : Finding) : List String :=
  [f.title, f.location, f.description] ++ given f.snippet ++ given f.suggestedFix ++
    given f.explanation

def scoreTexts (s : Score) : List String :=
  [toString s.overall, s.grade, toString s.parts.security, toString s.parts.performance,
    toString s.parts.maintainability, toString s.parts.bestPractices,
    toString s.parts.testCoverage]

/-- The texts of a page, in their order. -/
def texts (r : Review) : List String :=
  [r.title, r.title, r.status.name, dateText r, toString r.filesAnalyzed,
    toString r.linesAnalyzed] ++ r.score.elim [] scoreTexts ++ [toString r.findings.length] ++
    (ordered r.findings).flatMap findingTexts

/-- The pieces of a page with its line ends. -/
def pieces (lines : List Line) : List Piece := lines.flatMap (· ++ [.markup "\n"])

/-- The frame of all pages of a shape. -/
def frame (s : Shape) : Frame := outline (pieces (page s.sample))

theorem render_eq_join (r : Review) :
    render r = String.join ((pieces (page r)).map Piece.write) := by
  rw [render, pieces]
  induction page r with
  | nil => rfl
  | cons line lines ih =>
    rw [List.map_cons, String.join_cons, ih]
    simp [writeLine, Piece.write, String.append_assoc]

@[simp] theorem pieces_append (a b : List Line) : pieces (a ++ b) = pieces a ++ pieces b :=
  List.flatMap_append

theorem pieces_flatMap {α : Type} (f : α → List Line) (xs : List α) :
    pieces (xs.flatMap f) = xs.flatMap fun x => pieces (f x) :=
  List.flatMap_assoc

@[simp] theorem outline_append (a b : List Piece) : outline (a ++ b) = outline a ++ outline b :=
  List.map_append

theorem outline_flatMap {α : Type} (f : α → List Piece) (xs : List α) :
    outline (xs.flatMap f) = xs.flatMap fun x => outline (f x) :=
  List.map_flatMap

/-! ## Findings -/

section LinesFor

variable (write : String → List Line)

theorem outline_linesFor (text : Option String)
    (hwrite : ∀ t, outline (pieces (write t)) = outline (pieces (write "-"))) :
    outline (pieces (linesFor text write)) =
      if isGiven text then outline (pieces (write "-")) else [] := by
  cases text with
  | none => rfl
  | some t =>
    by_cases ht : t.isEmpty
    · simp [linesFor, isGiven, ht, pieces, outline]
    · simp [linesFor, isGiven, ht, hwrite t]

theorem isGiven_sample (given : Bool) : isGiven (if given then some "-" else none) = given := by
  cases given <;> decide

theorem texts_linesFor (text : Option String)
    (hwrite : ∀ t, (pieces (write t)).filterMap Piece.text? = [t]) :
    (pieces (linesFor text write)).filterMap Piece.text? = given text := by
  cases text with
  | none => rfl
  | some t =>
    by_cases ht : t.isEmpty
    · simp [linesFor, given, ht, pieces]
    · simp [linesFor, given, ht, hwrite t]

theorem closed_linesFor (text : Option String) (hwrite : ∀ t, Closed (outline (pieces (write t)))) :
    Closed (outline (pieces (linesFor text write))) := by
  unfold linesFor
  split
  · split
    · decide
    · exact hwrite _
  · decide

end LinesFor

/-- The markup of a finding depends on its shape alone. -/
theorem outline_findingLines (f : Finding) :
    outline (pieces (findingLines f)) =
      outline (pieces (findingLines (FindingShape.of f).sample)) := by
  set sample := (FindingShape.of f).sample
  have hsnippet : isGiven sample.snippet = isGiven f.snippet := isGiven_sample _
  have hfix : isGiven sample.suggestedFix = isGiven f.suggestedFix := isGiven_sample _
  have hexplanation : isGiven sample.explanation = isGiven f.explanation := isGiven_sample _
  simp only [findingLines, pieces_append, outline_append,
    outline_linesFor (fun t => [codeLine t]) _ fun _ => rfl,
    outline_linesFor (fun t => [[.markup "<h4>Suggested fix</h4>"], codeLine t]) _ fun _ => rfl,
    outline_linesFor (fun t => [[.markup "<p><em>", .text t, .markup "</em></p>"]]) _ fun _ => rfl,
    hsnippet, hfix, hexplanation]
  rfl

theorem texts_findingLines (f : Finding) :
    (pieces (findingLines f)).filterMap Piece.text? = findingTexts f := by
  simp only [findingLines, pieces_append, List.filterMap_append,
    texts_linesFor (fun t => [codeLine t]) _ fun _ => rfl,
    texts_linesFor (fun t => [[.markup "<h4>Suggested fix</h4>"], codeLine t]) _ fun _ => rfl,
    texts_linesFor (fun t => [[.markup "<p><em>", .text t, .markup "</em></p>"]]) _ fun _ => rfl]
  exact List.append_nil _

/-- A finding opens no tag that it does not close. -/
theorem closed_findingLines (f : Finding) : Closed (outline (pieces (findingLines f))) := by
  have hcolored (s : Severity) : Closed [some "<div class=\"finding\" style=\"border-color:",
      some (color s), some "\">", some "\n", some "<h3>", none, some "</h3>", some "\n",
      some "<p><span style=\"color:", some (color s), some "\">", some s.name,
      some "</span> "] := by
    cases s <;> decide +kernel
  have hcategory (c : Category) : Closed [some c.name] := by
    cases c <;> decide +kernel
  have hend (resolved : Bool) : Closed [some " at <code>", none, some "</code>",
      some (if resolved then " (resolved)" else ""), some "</p>", some "\n", some "<p>", none,
      some "</p>", some "\n"] := by
    cases resolved <;> decide +kernel
  have hcode : Closed [some "<pre><code>", none, some "</code></pre>", some "\n"] := by
    decide +kernel
  have hfix : Closed [some "<h4>Suggested fix</h4>", some "\n"] := by decide +kernel
  have hreason : Closed [some "<p><em>", none, some "</em></p>", some "\n"] := by decide +kernel
  simp only [findingLines, pieces_append, outline_append]
  refine .append (.append (.append (.append ?_ ?_) ?_) ?_) ?_
  · exact ((hcolored f.severity).append (hcategory f.category)).append (hend f.isResolved)
  · exact closed_linesFor _ _ fun _ => hcode
  · exact closed_linesFor _ _ fun _ => hfix.append hcode
  · exact closed_linesFor _ _ fun _ => hreason
  · decide +kernel

/-! ## Pages -/

/-- The head of a page is the same for all reviews, but for its texts. -/
theorem outline_headLines (r : Review) : outline (pieces (headLines r)) =
    [some "<!DOCTYPE html>", some "\n", some "<html lang=\"en\">", some "\n", some "<head>",
      some "\n", some "<meta charset=\"utf-8\">", some "\n", some "<title>Code Review: ", none,
      some "</title>", some "\n", some styleSheet, some "\n", some "</head>", some "\n",
      some "<body>", some "\n", some "<h1>Code Review: ", none, some "</h1>", some "\n",
      some "<p>Status: ", none, some " | Date: ", none, some " | Files: ", none,
      some " | Lines: ", none, some "</p>", some "\n"] :=
  rfl

theorem closed_headLines (r : Review) : Closed (outline (pieces (headLines r))) := by
  rw [outline_headLines]
  decide +kernel

theorem closed_scoreLines (s : Score) : Closed (outline (pieces (scoreLines s))) := by
  have hscore : outline (pieces (scoreLines s)) =
      outline (pieces (scoreLines ⟨0, ⟨0, 0, 0, 0, 0⟩, ""⟩)) := rfl
  rw [hscore]
  decide +kernel

theorem closed_page (r : Review) : Closed (outline (pieces (page r))) := by
  simp only [page, pieces_append, outline_append, pieces_flatMap, outline_flatMap]
  refine .append (.append (.append (.append (.append (closed_headLines r) ?_) ?_) ?_) ?_) ?_
  · cases r.score with
    | none => decide +kernel
    | some score => exact closed_scoreLines score
  · have hcount : Closed [some "<h2>Findings (", none, some ")</h2>", some "\n"] := by
      decide +kernel
    exact hcount
  · split <;> decide +kernel
  · exact .flatMap fun f _ => closed_findingLines f
  · decide +kernel

theorem texts_page (r : Review) : (pieces (page r)).filterMap Piece.text? = texts r := by
  have hscore : (pieces (r.score.elim [] scoreLines)).filterMap Piece.text? =
      r.score.elim [] scoreTexts := by
    cases r.score <;> rfl
  have hnothing : (pieces (if r.findings.isEmpty then [[.markup "<p>No issues found.</p>"]]
      else [])).filterMap Piece.text? = [] := by
    split <;> rfl
  simp only [page, pieces_append, List.filterMap_append, pieces_flatMap, List.filterMap_flatMap,
    texts_findingLines, hscore, hnothing, List.append_nil]
  exact List.append_nil _

/-- Findings of the same shapes are put in the same order. -/
theorem map_ordered (fs : List Finding) :
    (ordered fs).map FindingShape.of = (fs.map FindingShape.of).mergeSort fun a b =>
      decide (b.severity.priority ≤ a.severity.priority) :=
  List.map_mergeSort fun _ _ _ _ => rfl

theorem outline_findings (fs : List Finding) :
    (ordered fs).flatMap (fun f => outline (pieces (findingLines f))) =
      ((ordered fs).map FindingShape.of).flatMap
        fun s => outline (pieces (findingLines s.sample)) := by
  rw [List.flatMap_map]
  exact List.flatMap_congr fun f _ => outline_findingLines f

theorem shape_sample (s : Shape) : Shape.of s.sample = s := by
  obtain ⟨scored, findings⟩ := s
  have hfinding (s : FindingShape) : FindingShape.of s.sample = s := by
    simp only [FindingShape.of, FindingShape.sample, isGiven_sample]
  have hfindings : (findings.map FindingShape.sample).map FindingShape.of = findings := by
    simp [Function.comp_def, hfinding]
  rw [Shape.of, Shape.mk.injEq]
  exact ⟨by cases scored <;> rfl, hfindings⟩

/-- The markup of a page depends on the shape of the review alone. -/
theorem outline_page {r r' : Review} (h : Shape.of r = Shape.of r') :
    outline (pieces (page r)) = outline (pieces (page r')) := by
  obtain ⟨hscored, hfindings⟩ := Shape.mk.inj h
  have hscore : outline (pieces (r.score.elim [] scoreLines)) =
      outline (pieces (r'.score.elim [] scoreLines)) := by
    cases hr : r.score <;> cases hr' : r'.score <;> simp [hr, hr'] at hscored
    · rfl
    · rfl
  have hnothing : r.findings.isEmpty = r'.findings.isEmpty := by
    simpa using congrArg List.isEmpty hfindings
  simp only [page, pieces_append, outline_append, pieces_flatMap, outline_flatMap,
    outline_headLines, hscore, hnothing, outline_findings, map_ordered, hfindings]
  rfl

/-- All pages are their frames, filled with the texts of the review. -/
theorem render_eq_fill (r : Review) :
    render r = fill (frame (Shape.of r)) ((texts r).map escape) := by
  rw [render_eq_join, join_write, texts_page, frame, outline_page (shape_sample (Shape.of r))]

/-- Nothing can be put into a page through the texts of a review. Two reviews of the same shape have
pages with the same tags. The page of a review is a frame that depends on its shape alone, with one
gap for each of its texts. In the gaps the texts are escaped: no character of markup is left in
them, and each one can be recovered. -/
theorem render_inert (r r' : Review) (h : Shape.of r = Shape.of r') :
    tags (render r) = tags (render r') ∧
    render r = fill (frame (Shape.of r)) ((texts r).map escape) ∧
    gaps (frame (Shape.of r)) = (texts r).length ∧
    ∀ text ∈ texts r,
      (∀ c ∈ (escape text).toList, c ≠ '<' ∧ c ≠ '>' ∧ c ≠ '"' ∧ c ≠ '\'') ∧
      unescape (escape text) = text := by
  have hescaped (r : Review) : ∀ t ∈ (texts r).map escape, ∀ c ∈ t.toList, c ≠ '<' := by
    intro t ht c hc
    obtain ⟨text, -, rfl⟩ := List.mem_map.mp ht
    exact (not_markup_of_mem_escape hc).1
  refine ⟨?_, render_eq_fill r, ?_, fun text _ => ⟨fun c => not_markup_of_mem_escape, ?_⟩⟩
  · rw [render_eq_fill r, render_eq_fill r', ← h]
    exact tags_fill (closed_page (Shape.of r).sample) (hescaped r) (hescaped r')
  · rw [frame, outline_page (shape_sample (Shape.of r)), gaps_outline, texts_page]
  · exact unescape_escape text

/-- A review with a score and one finding, all texts of which are the same. -/
def uniform (text : String) : Review where
  id := Uuid.ofNat 1
  reviewerId := Uuid.ofNat 2
  title := text
  findings := [{
    id := Uuid.ofNat 3
    title := text
    description := text
    severity := .high
    category := .bug
    filePath := some text
    line := some 7
    snippet := some text
    explanation := some text }]
  score := some ⟨88, ⟨90, 100, 92, 80, 70⟩, text⟩
  createdAt := .utc 0

theorem render_inert_script :
    tags (render (uniform "</code><script>alert('1 & 2')</script>")) =
      tags (render (uniform "-")) ∧
    gaps (frame (Shape.of (uniform "</code><script>alert('1 & 2')</script>"))) = 19 ∧
    unescape (escape "</code><script>alert('1 & 2')</script>") =
      "</code><script>alert('1 & 2')</script>" := by
  obtain ⟨htags, -, hgaps, htexts⟩ := render_inert
    (uniform "</code><script>alert('1 & 2')</script>") (uniform "-") (by decide +kernel)
  exact ⟨htags, hgaps.trans (by decide +kernel), (htexts _ List.mem_cons_self).2⟩

end ReviewDesk.Report.Html
