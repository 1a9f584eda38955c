import Mathlib
import ReviewDesk.Model.Reply
import ReviewDesk.Proofs.Issues
import ReviewDesk.Proofs.Scanning

/-!
# Replies inside code fences

A reply may stand inside a code fence, and there may be blanks around the fence and inside of it. If
what is inside begins and ends with the brackets of an array, all of that is taken away and nothing
else, whatever fences the array itself holds. Every text that reads as an array is of that form.
-/
namespace ReviewDesk

namespace Text

variable {p : Char → Bool} {cs : List Char}

/-- Characters that are trimmed anyway make no difference at the ends. -/
theorem trimBy_append {front back : List Char} (hfront : ∀ c ∈ front, p c = true)
    (hback : ∀ c ∈ back, p c = true) : trimBy p (front ++ cs ++ back) = trimBy p cs := by
  rw [trimBy, trimBy, List.append_assoc, List.dropWhile_append_of_pos hfront, List.dropWhile_append]
  split
  · next hnone =>
    rw [List.dropWhile_eq_nil_iff.mpr hback, List.isEmpty_iff.mp hnone]
  · have hback' : ∀ c ∈ back.reverse, p c = true := fun c hc => hback c (List.mem_reverse.mp hc)
    rw [List.reverse_append, List.dropWhile_append_of_pos hback']

theorem trimBy_of_ends (hhead : cs.head?.any p = false) (hlast : cs.getLast?.any p = false) :
    trimBy p cs = cs := by
  have hfront : cs.dropWhile p = cs := dropWhile_eq_iff.mpr ⟨[], rfl, by simp, hhead⟩
  have hback : cs.reverse.dropWhile p = cs.reverse :=
    dropWhile_eq_iff.mpr ⟨[], rfl, by simp, by rwa [List.head?_reverse]⟩
  rw [trimBy, hfront, hback, List.reverse_reverse]

end Text

/-! ## Where an array begins and ends -/

namespace Json

open Cursor

variable {c c' : Cursor}

theorem advance_suffix (c : Cursor) (n : Nat) : (c.advance n).rest <:+ c.rest :=
  List.drop_suffix n c.rest

theorem skipBlanks_suffix (c : Cursor) : c.skipBlanks.rest <:+ c.rest := advance_suffix c _

theorem readString_suffix {start budget : Nat} {done : List Char} {s : String}
    (h : readString start budget c done = .ok (s, c')) : c'.rest <:+ c.rest := by
  fun_induction readString start budget c done
  case case3 budget c done tail hrest =>
    obtain ⟨-, rfl⟩ := Prod.mk.inj (Except.ok.inj h)
    exact advance_suffix c 1
  case case8 | case9 | case10 | case11 | case14 =>
    rename_i ih
    exact (ih h).trans (advance_suffix _ _)
  all_goals cases h

/-- A number is no array, and its characters are passed over. -/
theorem readNumber_suffix {v : Json} (h : readNumber c = .ok (v, c')) :
    c'.rest <:+ c.rest ∧ ∀ items, v ≠ .arr items := by
  revert h
  fun_cases readNumber c
  case case1 | case2 => exact nofun
  all_goals
    intro h
    obtain ⟨rfl, rfl⟩ := Prod.mk.inj (Except.ok.inj h)
    exact ⟨advance_suffix c _, fun _ => Json.noConfusion⟩

theorem wordValue_ne_arr {cs : List Char} {v : Json} {n : Nat} (h : wordValue? cs = some (v, n))
    (items : List Json) : v ≠ .arr items := by
  obtain ⟨w, hw, hv⟩ := Option.map_eq_some_iff.mp h
  have hmem := List.mem_of_find?_eq_some hw
  rintro rfl
  have hvalue : w.2 = .arr items := (Prod.mk.inj hv).1
  fin_cases hmem <;> cases hvalue

/-- What is left after a first character. -/
theorem rest_advance_one {x : Char} {cs : List Char} (h : c.rest = x :: cs) :
    (c.advance 1).rest = cs := by
  simp [Cursor.advance, h]

theorem eq_ok_of_map {α β : Type} {x : Except Fault α} {f : α → β} {b : β}
    (h : x.map f = .ok b) : ∃ a, x = .ok a ∧ f a = b := by
  cases x with
  | error fault => cases h
  | ok a => exact ⟨a, rfl, Except.ok.inj h⟩

theorem eq_ok_of_bind {α β : Type} {x : Except Fault α} {f : α → Except Fault β} {b : β}
    (h : x >>= f = .ok b) : ∃ a, x = .ok a ∧ f a = .ok b := by
  cases x with
  | error fault => cases h
  | ok a => exact ⟨a, rfl, h⟩

/-- An array reaches from its opening bracket to the closing one, behind which reading goes on. -/
def Bounded (c c' : Cursor) : Prop := ∃ more, c.rest = '[' :: more ∧ ']' :: c'.rest <:+ more

/-- What the readers leave, given a budget, is the end of what was there. -/
structure Passes (budget : Nat) : Prop where
  value : ∀ {c c' v}, readValue budget c = .ok (v, c') →
    c'.rest <:+ c.rest ∧ ∀ items, v = .arr items → Bounded c c'
  items : ∀ {c c' done vs}, readItems budget c done = .ok (vs, c') → ']' :: c'.rest <:+ c.rest
  fields : ∀ {c c' done fs}, readFields budget c done = .ok (fs, c') → c'.rest <:+ c.rest

/-- A closing mark is passed over. -/
theorem suffix_of_mark {cs : List Char} {x : Char} {rest : List Char} (h : c.rest <:+ cs)
    (hrest : c.rest = x :: rest) : x :: (c.advance 1).rest <:+ cs := by
  rw [rest_advance_one hrest]
  exact hrest ▸ h

theorem Passes.value_succ {budget : Nat} (ih : Passes budget) {v : Json}
    (h : readValue (budget + 1) c = .ok (v, c')) :
    c'.rest <:+ c.rest ∧ ∀ items, v = .arr items → Bounded c c' := by
  have hblanks : (c.advance 1).skipBlanks.rest <:+ (c.advance 1).rest := skipBlanks_suffix _
  have hfirst : (c.advance 1).skipBlanks.rest <:+ c.rest := hblanks.trans (advance_suffix c 1)
  rw [readValue] at h
  split at h
  · obtain ⟨⟨s, c''⟩, hstring, hvalue⟩ := eq_ok_of_map h
    obtain ⟨rfl, rfl⟩ := Prod.mk.inj hvalue
    exact ⟨(readString_suffix hstring).trans (advance_suffix c 1), nofun⟩
  · dsimp only at h
    split at h
    · obtain ⟨rfl, rfl⟩ := Prod.mk.inj (Except.ok.inj h)
      exact ⟨(advance_suffix _ 1).trans hfirst, nofun⟩
    · obtain ⟨⟨fields, c''⟩, hfields, hvalue⟩ := eq_ok_of_map h
      obtain ⟨rfl, rfl⟩ := Prod.mk.inj hvalue
      exact ⟨(ih.fields hfields).trans hfirst, nofun⟩
  · next more hc =>
    rw [rest_advance_one hc] at hblanks
    -- an empty array is closed here, any other by the reader of its items
    have hclosed : ']' :: c'.rest <:+ more := by
      dsimp only at h
      split at h
      · next rest hrest =>
        obtain ⟨-, rfl⟩ := Prod.mk.inj (Except.ok.inj h)
        exact suffix_of_mark hblanks hrest
      · obtain ⟨⟨items, c''⟩, hitems, hvalue⟩ := eq_ok_of_map h
        obtain ⟨-, rfl⟩ := Prod.mk.inj hvalue
        exact (ih.items hitems).trans hblanks
    refine ⟨?_, fun _ _ => ⟨more, hc, hclosed⟩⟩
    rw [hc]
    exact ((List.suffix_cons ']' c'.rest).trans hclosed).trans (List.suffix_cons '[' more)
  · split at h
    · next word n hword =>
      obtain ⟨rfl, rfl⟩ := Prod.mk.inj (Except.ok.inj h)
      exact ⟨advance_suffix c n, fun items hv => absurd hv (wordValue_ne_arr hword items)⟩
    · obtain ⟨hsuffix, hnumber⟩ := readNumber_suffix h
      exact ⟨hsuffix, fun items hv => absurd hv (hnumber items)⟩

theorem Passes.items_succ {budget : Nat} (ih : Passes budget) {done vs : List Json}
    (h : readItems (budget + 1) c done = .ok (vs, c')) : ']' :: c'.rest <:+ c.rest := by
  rw [readItems] at h
  obtain ⟨⟨v, c1⟩, hvalue, h⟩ := eq_ok_of_bind h
  have hmore : c1.skipBlanks.rest <:+ c.rest := (skipBlanks_suffix c1).trans (ih.value hvalue).1
  dsimp only at h
  split at h
  · next rest hrest =>
    obtain ⟨-, rfl⟩ := Prod.mk.inj (Except.ok.inj h)
    exact suffix_of_mark hmore hrest
  · exact (ih.items h).trans ((skipBlanks_suffix _).trans ((advance_suffix _ 1).trans hmore))
  · cases h

theorem Passes.fields_succ {budget : Nat} (ih : Passes budget) {done fs : List (String × Json)}
    (h : readFields (budget + 1) c done = .ok (fs, c')) : c'.rest <:+ c.rest := by
  rw [readFields] at h
  split at h
  · obtain ⟨⟨key, c1⟩, hkey, h⟩ := eq_ok_of_bind h
    have hmore : c1.skipBlanks.rest <:+ c.rest :=
      (skipBlanks_suffix c1).trans ((readString_suffix hkey).trans (advance_suffix c 1))
    dsimp only at h
    split at h
    · obtain ⟨⟨v, c2⟩, hvalue, h⟩ := eq_ok_of_bind h
      have hbehind : c2.skipBlanks.rest <:+ c.rest :=
        (skipBlanks_suffix c2).trans ((ih.value hvalue).1.trans
          ((skipBlanks_suffix _).trans ((advance_suffix _ 1).trans hmore)))
      dsimp only at h
      split at h
      · obtain ⟨-, rfl⟩ := Prod.mk.inj (Except.ok.inj h)
        exact (advance_suffix _ 1).trans hbehind
      · exact (ih.fields h).trans ((skipBlanks_suffix _).trans ((advance_suffix _ 1).trans hbehind))
      · cases h
    · cases h
  · cases h

theorem passes (budget : Nat) : Passes budget := by
  -- the readers call one another with one budget less, so the three facts go together
  induction budget with
  | zero => exact ⟨nofun, nofun, nofun⟩
  | succ budget ih => exact ⟨ih.value_succ, ih.items_succ, ih.fields_succ⟩

theorem exists_blanks (c : Cursor) :
    ∃ blanks, c.rest = blanks ++ c.skipBlanks.rest ∧ ∀ x ∈ blanks, Text.isBlank x = true := by
  refine ⟨c.rest.takeWhile fun x => x == ' ' || x == '\t' || x == '\n' || x == '\r', ?_, ?_⟩
  · exact (List.prefix_iff_eq_append.mp ( List.takeWhile_prefix _)).symm
  · intro x hx
    have hblank := List.mem_takeWhile_imp hx
    simp only [Bool.or_eq_true, beq_iff_eq] at hblank
    obtain ((rfl | rfl) | rfl) | rfl := hblank <;> rfl

/-- A text that reads as an array has nothing but blanks around the brackets of the array. -/
theorem exists_of_parse_arr {source : String} {items : List Json}
    (h : parse source = .ok (.arr items)) :
    ∃ front inner back, source.toList = front ++ ('[' :: (inner ++ [']'])) ++ back ∧
      (∀ x ∈ front, Text.isBlank x = true) ∧ ∀ x ∈ back, Text.isBlank x = true := by
  rw [parse, parseChars] at h
  split at h
  · obtain ⟨_, hthrow, -⟩ := eq_ok_of_bind h
    cases hthrow
  obtain ⟨⟨v, c⟩, hvalue, h⟩ := eq_ok_of_bind h
  dsimp only at h
  split at h
  · next hend =>
    obtain rfl := Except.ok.inj h
    obtain ⟨front, hfront, hblank⟩ := exists_blanks ⟨0, source.toList⟩
    obtain ⟨back, hback, hblank'⟩ := exists_blanks c
    obtain ⟨more, hmore, inner, hinner⟩ := ((passes _).value hvalue).2 items rfl
    rw [List.isEmpty_iff.mp hend, List.append_nil] at hback
    rw [hmore, ← hinner, hback] at hfront
    exact ⟨front, inner, back, hfront.trans (by simp), hblank, hblank'⟩
  · cases h

end Json

/-! ## Fences -/

namespace Model

open Text

/-- A text that begins and ends with the brackets of an array, up to blanks. -/
def IsBracketed (x : String) : Prop :=
  (trim x).toList.head? = some '[' ∧ (trim x).toList.getLast? = some ']'

theorem isBracketed_of_parse {x : String} {items : List Json}
    (h : Json.parse x = .ok (.arr items)) : IsBracketed x := by
  obtain ⟨front, inner, back, hx, hfront, hback⟩ := Json.exists_of_parse_arr h
  have htrim : (trim x).toList = '[' :: (inner ++ [']']) := by
    rw [trim, String.toList_ofList, hx, trimBy_append hfront hback]
    exact trimBy_of_ends rfl (by simp [List.getLast?_cons, show isBlank ']' = false from rfl])
  rw [IsBracketed, htrim]
  simp [List.getLast?_cons]

theorem IsBracketed.exists_front {x : String} (h : IsBracketed x) :
    ∃ front rest, x.toList = front ++ '[' :: rest ∧ ∀ c ∈ front, isBlank c = true := by
  obtain ⟨front, hx, hfront, -⟩ := dropWhile_eq_iff.mp (rfl : x.toList.dropWhile isBlank = _)
  obtain ⟨more, hmore⟩ := trimBy_prefix isBlank x.toList
  obtain ⟨inner, hinner⟩ := List.head?_eq_some_iff.mp h.1
  rw [trim, String.toList_ofList] at hinner
  refine ⟨front, inner ++ more, ?_, hfront⟩
  rw [hx, ← hmore, hinner, List.cons_append]

/-- What is left of a text without the fence that opens it. -/
def withoutOpening (cs : List Char) : List Char :=
  ((after? "```json" cs) <|> (after? "```" cs)).getD cs

/-- What is left of a text without the fence that closes it. -/
def withoutClosing (cs : List Char) : List Char :=
  ((after? "```" cs.reverse).map List.reverse).getD cs

theorem stripFences_eq (text : String) :
    stripFences text = .ofList (trimBy isBlank (withoutClosing (withoutOpening
      (trimBy isBlank text.toList)))) := rfl

theorem after_of_head {word : String} {cs : List Char} {c : Char} (hword : word.toList.head? = some c)
    (h : cs.head? ≠ some c) : after? word cs = none := by
  cases hrest : after? word cs with
  | none => rfl
  | some rest =>
    rw [after_eq_some_iff.mp hrest, List.head?_append, hword] at h
    exact absurd rfl h

theorem withoutOpening_of_head {cs : List Char} (h : cs.head? ≠ some '\x60') :
    withoutOpening cs = cs := by
  rw [withoutOpening, after_of_head rfl h, after_of_head rfl h]
  rfl

theorem withoutClosing_of_last {cs : List Char} (h : cs.getLast? ≠ some '\x60') :
    withoutClosing cs = cs := by
  rw [withoutClosing, after_of_head rfl (by rwa [List.head?_reverse])]
  rfl

theorem withoutOpening_json (rest : List Char) :
    withoutOpening ("```json".toList ++ rest) = rest := by
  rw [withoutOpening, after_eq_some_iff.mpr rfl]
  rfl

theorem withoutOpening_bare {rest : List Char} (h : rest.head? ≠ some 'j') :
    withoutOpening ("```".toList ++ rest) = rest := by
  have hjson : after? "```json" ("```".toList ++ rest) = none := by
    have hrest : after? "json" rest = none := after_of_head rfl h
    exact hrest
  rw [withoutOpening, hjson, after_eq_some_iff.mpr rfl]
  rfl

theorem withoutClosing_append (cs : List Char) : withoutClosing (cs ++ "```".toList) = cs := by
  have hreverse : (cs ++ "```".toList).reverse = "```".toList ++ cs.reverse := by simp
  rw [withoutClosing, hreverse, after_eq_some_iff.mpr rfl]
  simp

theorem toList_trim (x : String) : (trim x).toList = trimBy isBlank x.toList :=
  String.toList_ofList

theorem isBlank_of_isBlankText {s : String} (h : isBlankText s = true) :
    ∀ c ∈ s.toList, isBlank c = true :=
  List.all_eq_true.mp h

theorem stripFences_plain {x a d : String} (hx : IsBracketed x) (ha : isBlankText a = true)
    (hd : isBlankText d = true) : stripFences (a ++ x ++ d) = trim x := by
  have hhead := hx.1
  have hlast := hx.2
  rw [toList_trim] at hhead hlast
  rw [stripFences_eq, String.toList_append, String.toList_append,
    trimBy_append (isBlank_of_isBlankText ha) (isBlank_of_isBlankText hd),
    withoutOpening_of_head (by simp [hhead]), withoutClosing_of_last (by simp [hlast]),
    trimBy_of_ends (by simp [hhead]; rfl) (by simp [hlast]; rfl)]
  rfl

theorem trim_append {x b c : String} (hb : isBlankText b = true) (hc : isBlankText c = true) :
    trim (b ++ x ++ c) = trim x := by
  rw [trim, String.toList_append, String.toList_append,
    trimBy_append (isBlank_of_isBlankText hb) (isBlank_of_isBlankText hc)]
  rfl

/-- A fence around a text goes, if its opening does. -/
theorem stripFences_fenced {inside a d opening : String} (ha : isBlankText a = true)
    (hd : isBlankText d = true) (hhead : opening.toList.head? = some '\x60')
    (hopening : withoutOpening (opening.toList ++ (inside.toList ++ "```".toList)) =
      inside.toList ++ "```".toList) :
    stripFences (a ++ opening ++ inside ++ "```" ++ d) = trim inside := by
  have hchars : (a ++ opening ++ inside ++ "```" ++ d).toList =
      a.toList ++ (opening.toList ++ (inside.toList ++ "```".toList)) ++ d.toList := by
    simp
  have hends : trimBy isBlank (opening.toList ++ (inside.toList ++ "```".toList)) =
      opening.toList ++ (inside.toList ++ "```".toList) := by
    refine trimBy_of_ends ?_ ?_
    · rw [List.head?_append, hhead]
      rfl
    · rw [← List.append_assoc, List.getLast?_append]
      rfl
  rw [stripFences_eq, hchars, trimBy_append (isBlank_of_isBlankText ha) (isBlank_of_isBlankText hd),
    hends, hopening, withoutClosing_append]
  rfl

/-- Behind the blanks at its beginning, a bracketed text begins with its bracket. -/
theorem IsBracketed.head_ne {x b : String} (hx : IsBracketed x) (hb : isBlankText b = true)
    (more : List Char) : ((b ++ x).toList ++ more).head? ≠ some 'j' := by
  obtain ⟨front, rest, hfront, hblank⟩ := hx.exists_front
  have hchars : (b ++ x).toList ++ more = (b.toList ++ front) ++ '[' :: (rest ++ more) := by
    simp [hfront]
  rw [hchars]
  cases hblanks : b.toList ++ front with
  | nil => simp
  | cons c blanks =>
    have hc : isBlank c = true := by
      obtain h | h := List.mem_append.mp (hblanks ▸ List.mem_cons_self : c ∈ b.toList ++ front)
      · exact isBlank_of_isBlankText hb c h
      · exact hblank c h
    rintro ⟨⟩
    exact absurd hc (by decide)

/-- What a reply is read as: its issues, or the words of its fault. -/
def readReply (path text : String) : Except String (List Issue) :=
  (parseReply path (stripFences text)).mapError (ReplyFault.message (stripFences text))

/-- Code fences make no difference. A text that begins and ends with the brackets of an array, as
every text does that reads as an array, is what is left of it plain, in a fence for JSON and in a
bare fence, with blanks anywhere between, and the reply is read alike in all three forms. -/
theorem readReply_fenced (x : String) :
    (∀ items, Json.parse x = .ok (.arr items) → IsBracketed x) ∧
    (IsBracketed x → ∀ a b c d : String, isBlankText a = true → isBlankText b = true →
      isBlankText c = true → isBlankText d = true →
      stripFences (a ++ x ++ d) = trim x ∧
      stripFences (a ++ "```json" ++ b ++ x ++ c ++ "```" ++ d) = trim x ∧
      stripFences (a ++ "```" ++ b ++ x ++ c ++ "```" ++ d) = trim x ∧
      ∀ path, readReply path (a ++ "```json" ++ b ++ x ++ c ++ "```" ++ d) =
          readReply path (a ++ x ++ d) ∧
        readReply path (a ++ "```" ++ b ++ x ++ c ++ "```" ++ d) =
          readReply path (a ++ x ++ d)) := by
  refine ⟨fun items => isBracketed_of_parse, fun hx a b c d ha hb hc hd => ?_⟩
  have hplain := stripFences_plain hx ha hd
  have hinside (opening : String) : a ++ opening ++ b ++ x ++ c ++ "```" ++ d =
      a ++ opening ++ (b ++ x ++ c) ++ "```" ++ d := by
    simp only [String.append_assoc]
  have hjson : stripFences (a ++ "```json" ++ b ++ x ++ c ++ "```" ++ d) = trim x := by
    rw [hinside, stripFences_fenced ha hd rfl (withoutOpening_json _), trim_append hb hc]
  have hbare : stripFences (a ++ "```" ++ b ++ x ++ c ++ "```" ++ d) = trim x := by
    rw [hinside, stripFences_fenced ha hd rfl, trim_append hb hc]
    rw [String.toList_append, List.append_assoc]
    exact withoutOpening_bare (hx.head_ne hb _)
  refine ⟨hplain, hjson, hbare, fun path => ⟨?_, ?_⟩⟩
  · rw [readReply, readReply, hjson, hplain]
  · rw [readReply, readReply, hbare, hplain]

/-- An array with a fence in its only text, and a line feed behind it. -/
def fenceInside : String := "[\x7b\"codeSnippet\": \"```json\\n[]\\n```\"\x7d]\n"

theorem readReply_fenced_inside :
    stripFences ("\n" ++ "```" ++ " \t" ++ fenceInside ++ "" ++ "```" ++ "\n") =
        "[\x7b\"codeSnippet\": \"```json\\n[]\\n```\"\x7d]" ∧
      readReply "a.py" ("\n" ++ "```" ++ " \t" ++ fenceInside ++ "" ++ "```" ++ "\n") =
        readReply "a.py" ("\n" ++ fenceInside ++ "\n") := by
  have hparse : Json.parse fenceInside =
      .ok (.arr [.obj [("codeSnippet", .str "```json\n[]\n```")]]) := rfl
  have hx := (readReply_fenced fenceInside).1 _ hparse
  obtain ⟨-, -, hbare, hread⟩ :=
    (readReply_fenced fenceInside).2 hx "\n" " \t" "" "\n" rfl rfl rfl rfl
  exact ⟨hbare, (hread "a.py").2⟩

end Model

end ReviewDesk
