import Mathlib.Data.List.Infix
import ReviewDesk.Inspection.Note
import ReviewDesk.Model.Reply

/-!
# Issues of a file

Whoever reports an issue, it names its file, weighs what its severity weighs, and has a title with
something in it that is not too long: a title from a reply is trimmed and cut off, and one from a
check begins with a word of the check.
-/
namespace ReviewDesk

/-- An issue that can be shown as one of a file. -/
structure Issue.IsOf (path : String) (i : Issue) : Prop where
  path : i.filePath = some path
  impact : i.impact = some i.severity.impact
  title_text : Text.isBlankText i.title = false
  title_length : i.title.length ≤ 200

namespace Text

theorem trimBy_prefix (p : Char → Bool) (cs : List Char) : trimBy p cs <+: cs.dropWhile p := by
  rw [trimBy, ← List.reverse_suffix, List.reverse_reverse]
  exact List.dropWhile_suffix p

/-- What is left of a text begins with a character that is kept. -/
theorem head_trimBy {p : Char → Bool} {cs : List Char} (h : trimBy p cs ≠ []) :
    ∃ c rest, trimBy p cs = c :: rest ∧ p c = false := by
  obtain ⟨c, rest, hc⟩ := List.exists_cons_of_ne_nil h
  refine ⟨c, rest, hc, ?_⟩
  obtain ⟨more, hmore⟩ := trimBy_prefix p cs
  rw [hc, List.cons_append] at hmore
  have hhead := List.head?_dropWhile_not p cs
  rw [← hmore] at hhead
  simpa using hhead

/-- A text that begins with a character that is not blank is not blank. -/
theorem isBlankText_ofList_cons {c : Char} (h : isBlank c = false) (rest : List Char) :
    isBlankText (.ofList (c :: rest)) = false := by
  simp [isBlankText, h]

end Text

namespace Model

theorem titleOf_text (v : Option Json) : Text.isBlankText (titleOf v) = false := by
  unfold titleOf
  dsimp only
  split
  · decide
  · next hne =>
    have hcs : Text.trimBy Text.isBlank (wordsOf v).toList ≠ [] := by
      intro hnil
      simp [Text.trim, hnil] at hne
    obtain ⟨c, rest, hc, hblank⟩ := Text.head_trimBy hcs
    rw [Text.trim, String.toList_ofList, hc]
    exact Text.isBlankText_ofList_cons hblank _

theorem titleOf_length (v : Option Json) : (titleOf v).length ≤ 200 := by
  unfold titleOf
  dsimp only
  split
  · decide
  · rw [← String.length_toList, String.toList_ofList, List.length_take]
    exact Nat.min_le_left _ _

variable {path : String}

/-- Whatever the fields of an object are, its issue is one of the file. -/
theorem isOf_issueOf {fields : List (String × Json)} {i : Issue} (h : issueOf path fields = .ok i) :
    i.IsOf path := by
  unfold issueOf at h
  dsimp only at h
  cases hline : lineOf (Json.lookup? fields "lineNumber") with
  | error fault =>
    rw [hline] at h
    cases h
  | ok line =>
    cases hend : lineOf (Json.lookup? fields "endLineNumber") with
    | error fault =>
      rw [hline, hend] at h
      cases h
    | ok endLine =>
      rw [hline, hend] at h
      simp only [bind, Except.bind, pure, Except.pure, Except.ok.injEq] at h
      subst h
      have htext := titleOf_text (Json.lookup? fields "title")
      have hlength := titleOf_length (Json.lookup? fields "title")
      constructor <;> dsimp only
      · exact htext
      · exact hlength

theorem isOf_itemIssue {item : Json} {i : Issue} (h : itemIssue path item = .ok i) :
    i.IsOf path := by
  cases item with
  | obj fields => exact isOf_issueOf h
  | _ => cases h

/-- The items of an array are read one after the other. -/
theorem isOf_mapM {items : List Json} {issues : List Issue}
    (h : items.mapM (itemIssue path) = .ok issues) : ∀ i ∈ issues, i.IsOf path := by
  induction items generalizing issues with
  | nil =>
    cases h
    simp
  | cons item rest ih =>
    rw [List.mapM_cons] at h
    cases hitem : itemIssue path item with
    | error fault =>
      rw [hitem] at h
      cases h
    | ok i =>
      cases hrest : rest.mapM (itemIssue path) with
      | error fault =>
        rw [hitem, hrest] at h
        cases h
      | ok more =>
        rw [hitem, hrest] at h
        cases h
        exact List.forall_mem_cons.mpr ⟨isOf_itemIssue hitem, ih hrest⟩

theorem isOf_parseReply {source : String} {issues : List Issue}
    (h : parseReply path source = .ok issues) : ∀ i ∈ issues, i.IsOf path := by
  unfold parseReply at h
  cases hparse : Json.parse source with
  | error fault =>
    rw [hparse] at h
    cases h
  | ok payload =>
    rw [hparse] at h
    cases payload with
    | arr items => exact isOf_mapM h
    | _ => cases h

end Model

namespace Inspection

/-- A title of a check is cut off behind its first words. -/
theorem isOf_place {issue : Issue} {c : Char} {rest : List Char}
    (htitle : issue.title.toList = c :: rest) (hc : Text.isBlank c = false) (path : String)
    (line : Nat) : (place path line issue).IsOf path := by
  have hshort : (fitTitle issue.title).length ≤ 200 := by
    unfold fitTitle
    split
    · rw [String.length_append, ← String.length_toList, String.toList_ofList, List.length_take]
      exact Nat.add_le_add_right (Nat.min_le_left _ _) 3
    · next h => simpa [Issue.titleLimit] using h
  have htext : Text.isBlankText (fitTitle issue.title) = false := by
    unfold fitTitle
    split
    · simp [Text.isBlankText, htitle, Issue.titleLimit, hc]
    · simp [Text.isBlankText, htitle, hc]
  exact ⟨rfl, rfl, htext, hshort⟩

end Inspection

end ReviewDesk
