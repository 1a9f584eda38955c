import Mathlib
import ReviewDesk.Proofs.Checking
import ReviewDesk.Proofs.JsonText
import ReviewDesk.Proofs.Moments
import ReviewDesk.Proofs.Scores
import ReviewDesk.Store.Reviews

/-!
# Reviews that are read from their rows

What is written to the columns of a row is read from them. A finding and a review that pass the
checks of their readers are read as they were written, the cost apart, which loses the sign of a
zero; and whatever is read has the texts, numbers and findings that were written.
-/
namespace ReviewDesk

/-- A finding that has a title of moderate length with text in it, and an impact on the scale. -/
structure Finding.Valid (f : Finding) : Prop where
  title : 1 ≤ f.title.length ∧ f.title.length ≤ Issue.titleLimit
  text : Text.isBlankText f.title = false
  impact : ∀ n ∈ f.impact, 1 ≤ n ∧ n ≤ 10

/-- A review that has a title of moderate length, valid findings and a score in range, and moments
on the calendar. -/
structure Review.Valid (r : Review) : Prop where
  title : 1 ≤ r.title.length ∧ r.title.length ≤ Review.titleLimit
  findings : ∀ f ∈ r.findings, f.Valid
  score : ∀ s ∈ r.score, s.Valid
  startedAt : ∀ m ∈ r.startedAt, m.Storable
  completedAt : ∀ m ∈ r.completedAt, m.Storable
  createdAt : r.createdAt.Storable

namespace Store

/-! ## Cells -/

namespace Cell

section Nullable

variable {α : Type} {cell : α → Cell} {read : Cell → Option α} {value : Option α}

theorem nullable_of_ne_null {c : Cell} (h : c ≠ null) : c.nullable read = (read c).map some := by
  cases c with
  | null => exact absurd rfl h
  | integer n => rfl
  | real x => rfl
  | text s => rfl

theorem nullable_ofOption (hcell : ∀ a, cell a ≠ null)
    (hread : ∀ a ∈ value, read (cell a) = some a) :
    (ofOption cell value).nullable read = some value := by
  cases value with
  | none => rfl
  | some a =>
    rw [ofOption, Option.elim_some, nullable_of_ne_null (hcell a), hread a rfl, Option.map_some]

theorem isSome_of_nullable (hcell : ∀ a, cell a ≠ null) {result : Option α}
    (h : (ofOption cell value).nullable read = some result) : result.isSome = value.isSome := by
  cases value with
  | none => rw [← Option.some.inj h]
  | some a =>
    rw [ofOption, Option.elim_some, nullable_of_ne_null (hcell a), Option.map_eq_some_iff] at h
    obtain ⟨b, -, rfl⟩ := h
    rfl

end Nullable

@[simp] theorem text?_text (s : String) : (text s).text? = some s := rfl

@[simp] theorem nullable_text (value : Option String) :
    (ofOption text value).nullable text? = some value :=
  nullable_ofOption (fun _ => Cell.noConfusion) fun _ _ => rfl

@[simp] theorem nullable_integer (value : Option Int) :
    (ofOption integer value).nullable integer? = some value :=
  nullable_ofOption (fun _ => Cell.noConfusion) fun _ _ => rfl

@[simp] theorem natural_ofNat (n : Nat) : (ofNat n).natural? = some n := by
  simp [natural?, ofNat, integer?]

@[simp] theorem nullable_natural (value : Option Nat) :
    (ofOption ofNat value).nullable natural? = some value :=
  nullable_ofOption (fun _ => Cell.noConfusion) fun n _ => natural_ofNat n

@[simp] theorem identifier_text (u : Uuid) : (text u.text).identifier? = some u := by
  rw [identifier?, text?_text, Option.bind_eq_bind, Option.bind_some, Uuid.parseLoose_text]

@[simp] theorem flag_ofFlag (flag : Bool) : (ofFlag flag).flag? = some flag := by
  cases flag <;> rfl

@[simp] theorem named_severity (s : Severity) :
    (text s.name).named? Severity.all Severity.name = some s := by
  cases s <;> rfl

@[simp] theorem named_category (c : Category) :
    (text c.name).named? Category.all Category.name = some c := by
  cases c <;> rfl

@[simp] theorem named_status (s : Review.Status) :
    (text s.name).named? Review.Status.all Review.Status.name = some s := by
  cases s <;> rfl

theorem moment_ofMoment {m : Moment} (h : m.Storable) : (ofMoment m).moment? = some m := by
  rw [moment?, ofMoment, text?_text, Option.bind_eq_bind, Option.bind_some,
    Moment.readStored_storedText h]

theorem between_ofNat {least most n : Nat} (h : least ≤ n ∧ n ≤ most) :
    (ofNat n).between? least most = some n := by
  simp [between?, Nat.not_lt.mpr h.1, Nat.not_lt.mpr h.2]

theorem each_text (texts : List String) (i : Nat) :
    Checked.each.go (fun _ => Field.text) i (texts.map .str) = .good texts := by
  induction texts generalizing i with
  | nil => rfl
  | cons s texts ih =>
    rw [List.map_cons, Checked.each.go, ih]
    rfl

@[simp] theorem json_texts (texts : List String) :
    (text (Json.write .spaced (.arr (texts.map .str)))).json? (Field.list Field.text) =
      some texts := by
  have hread : Field.list Field.text (.arr (texts.map .str)) = .good texts := each_text texts 0
  simp only [json?, text?_text, Option.bind_eq_bind, Option.bind_some, Json.parse_write_texts,
    Except.toOption, hread, Checked.toOption]

theorem flat_score {s : Score} (h : s.Valid) :
    ∃ fields, s.json = .obj fields ∧ Json.Flat fields := by
  have hplain {n : Int} (hn : 0 ≤ n ∧ n ≤ 100) : (Json.int n).Plain := by
    have hshort : ∀ k < 101, (Nat.toDigits 10 k).length ≤ Json.maxDigits := by decide
    exact hshort n.natAbs (by omega)
  refine ⟨_, rfl, List.cons_ne_nil _ _, by simp, ?_⟩
  simp only [List.forall_mem_cons]
  exact ⟨hplain h.overall, hplain h.security, hplain h.performance, hplain h.maintainability,
    hplain h.bestPractices, hplain h.testCoverage, trivial, fun _ hf => absurd hf List.not_mem_nil⟩

theorem readPart_int {n : Int} (h : 0 ≤ n ∧ n ≤ 100) : Score.readPart (.int n) = .good n := by
  simp [Score.readPart, Field.integerBetween, Field.integer, Checked.andThen, Field.checkAtMost,
    Field.checkAtLeast, Int.not_lt.mpr h.1, Int.not_lt.mpr h.2]

theorem record_score {s : Score} (h : s.Valid) :
    Field.record "CodeQualityScore" Score.read s.json = .good s := by
  simp [Score.json, Field.record, Score.read, Field.required, Field.Key.find, Json.lookup?,
    readPart_int h.overall, readPart_int h.security, readPart_int h.performance,
    readPart_int h.maintainability, readPart_int h.bestPractices, readPart_int h.testCoverage,
    Field.text, Checked.under, Functor.map, Seq.seq, Checked.map, Checked.seq]

theorem json_score {s : Score} (h : s.Valid) :
    (text (s.json.write .dense)).json? (Field.record "CodeQualityScore" Score.read) = some s := by
  obtain ⟨fields, hfields, hflat⟩ := flat_score h
  have hparse : Json.parse (s.json.write .dense) = .ok s.json := by
    rw [hfields]
    exact hflat.parse_write ⟨rfl, rfl, rfl, rfl⟩
  simp only [json?, text?_text, Option.bind_eq_bind, Option.bind_some, hparse, Except.toOption,
    record_score h, Checked.toOption]

end Cell

/-! ## Findings -/

/-- Only the title and the impact of a finding are checked when its row is read. -/
theorem readFinding_findingRow (review : Uuid) (position : Nat) (f : Finding) :
    readFinding (findingRow review position f) = do
      let title ← (Issue.checkTitle f.title).toOption
      let impact ← (Cell.ofOption .ofNat f.impact).nullable (Cell.between? 1 10)
      return { f with title, impact } := by
  simp [readFinding, findingRow, Row.cell, List.lookup, Cell.checked?]

theorem readFinding_of_valid {f : Finding} (h : f.Valid) (review : Uuid) (position : Nat) :
    readFinding (findingRow review position f) = some f := by
  have htitle : Issue.checkTitle f.title = .good f.title :=
    Checked.andThen_eq_good.mpr
      ⟨f.title, Field.checkLength_eq_good.mpr ⟨h.title, rfl⟩, by simp [h.text]⟩
  have himpact : (Cell.ofOption .ofNat f.impact).nullable (Cell.between? 1 10) = some f.impact :=
    Cell.nullable_ofOption (fun _ => Cell.noConfusion) fun n hn =>
      Cell.between_ofNat (h.impact n hn)
  simp [readFinding_findingRow, htitle, himpact, Checked.toOption]

theorem eq_of_checkTitle {s t : String} (h : Issue.checkTitle s = .good t) : t = s := by
  obtain ⟨u, hu, h⟩ := Checked.andThen_eq_good.mp h
  split_ifs at h
  · exact ((Checked.fail_eq_good _).mp h).elim
  · rw [← Checked.good.inj h, (Field.checkLength_eq_good.mp hu).2]

theorem eq_of_nullable_between {least most : Nat} {value result : Option Nat}
    (h : (Cell.ofOption .ofNat value).nullable (Cell.between? least most) = some result) :
    result = value := by
  cases value with
  | none => exact (Option.some.inj h).symm
  | some n =>
    rw [Cell.ofOption, Option.elim_some, Cell.nullable_of_ne_null Cell.noConfusion] at h
    simp only [Cell.between?, Cell.natural_ofNat, Option.bind_eq_bind, Option.bind_some] at h
    split_ifs at h
    · cases h
    · exact (Option.some.inj h).symm

theorem eq_good_of_toOption {α : Type} {c : Checked α} {a : α} (h : c.toOption = some a) :
    c = .good a := by
  cases c with
  | good b => rw [Option.some.inj h]
  | bad => cases h

/-- What is read from the row of a finding is the finding. -/
theorem eq_of_readFinding {review : Uuid} {position : Nat} {f g : Finding}
    (h : readFinding (findingRow review position f) = some g) : g = f := by
  simp only [readFinding_findingRow, Option.bind_eq_bind, Option.bind_eq_some_iff] at h
  obtain ⟨title, htitle, impact, himpact, hg⟩ := h
  rw [eq_of_checkTitle (eq_good_of_toOption htitle), eq_of_nullable_between himpact] at hg
  exact (Option.some.inj hg).symm

/-- All rows of a review name it, and they stand in the order of its findings. -/
theorem rowsOf_rowsOfFindings (r : Review) :
    rowsOf r.id.text (rowsOfFindings r) = rowsOfFindings r := by
  have hname (row : Row) (hrow : row ∈ rowsOfFindings r) :
      ((row.cell "code_review_id").text? == some r.id.text) = true := by
    obtain ⟨i, hi, rfl⟩ := List.mem_mapIdx.mp hrow
    simp [findingRow, Row.cell, List.lookup]
  have hposition (i : Nat) (f : Finding) :
      ((findingRow r.id i f).cell "position").integer?.getD 0 = i := by
    simp [findingRow, Row.cell, List.lookup, Cell.ofNat, Cell.integer?]
  have hsorted : (rowsOfFindings r).Pairwise fun a b =>
      decide ((a.cell "position").integer?.getD 0 ≤
        (b.cell "position").integer?.getD 0) = true := by
    rw [List.pairwise_iff_getElem]
    intro i j hi hj hij
    simp only [rowsOfFindings, List.getElem_mapIdx, hposition, decide_eq_true_eq]
    omega
  rw [rowsOf, List.filter_eq_self.mpr hname, List.mergeSort_of_pairwise hsorted]

section Rows

variable {row : Nat → Finding → Row} {fs gs : List Finding}

theorem mapM_readFinding (h : ∀ f ∈ fs, ∀ i, readFinding (row i f) = some f) :
    (fs.mapIdx row).mapM readFinding = some fs := by
  induction fs generalizing row with
  | nil => rfl
  | cons f fs ih =>
    have hrest : (fs.mapIdx fun i => row (i + 1)).mapM readFinding = some fs :=
      ih fun g hg i => h g (List.mem_cons_of_mem _ hg) (i + 1)
    simp [List.mapIdx_cons, h f List.mem_cons_self, hrest]

theorem eq_of_mapM_readFinding (h : ∀ i f g, readFinding (row i f) = some g → g = f)
    (hgs : (fs.mapIdx row).mapM readFinding = some gs) : gs = fs := by
  induction fs generalizing row gs with
  | nil => exact (Option.some.inj hgs).symm
  | cons f fs ih =>
    simp only [List.mapIdx_cons, List.mapM_cons, Option.bind_eq_bind,
      Option.bind_eq_some_iff] at hgs
    obtain ⟨g, hg, gs', hgs', heq⟩ := hgs
    rw [h 0 f g hg, ih (fun i => h (i + 1)) hgs'] at heq
    exact (Option.some.inj heq).symm

end Rows

/-! ## Reviews -/

/-- A cost as it is kept: no number is none, and a zero has no sign. -/
def keptCost (cost : Option Float) : Option Float :=
  cost.bind fun x => if x.isNaN then none else some (if x == 0.0 then 0.0 else x)

@[simp] theorem nullable_real (cost : Option Float) :
    (Cell.ofOption .ofReal cost).nullable Cell.real? = some (keptCost cost) := by
  cases cost with
  | none => rfl
  | some x =>
    simp only [Cell.ofOption, Option.elim_some, Cell.ofReal, keptCost, Option.bind_some]
    split_ifs <;> rfl

/-- What is checked when the rows of a review are read. -/
theorem readReview_rows (r : Review) :
    readReview (reviewRow r) (rowsOfFindings r) = do
      let findings ← (rowsOfFindings r).mapM readFinding
      let score ← (Cell.ofOption (fun s => .text (s.json.write .dense)) r.score).nullable
        (Cell.json? (Field.record "CodeQualityScore" Score.read))
      let title ← (Field.checkLength (some 1) (some Review.titleLimit) r.title).toOption
      let startedAt ← (Cell.ofOption .ofMoment r.startedAt).nullable Cell.moment?
      let completedAt ← (Cell.ofOption .ofMoment r.completedAt).nullable Cell.moment?
      let createdAt ← (Cell.ofMoment r.createdAt).moment?
      return {
        r with
        findings, score, title, startedAt, completedAt, createdAt
        costUsd := keptCost r.costUsd } := by
  simp [readReview, reviewRow, Row.cell, List.lookup, Cell.checked?, rowsOf_rowsOfFindings]

theorem nullable_score {score : Option Score} (h : ∀ s ∈ score, s.Valid) :
    (Cell.ofOption (fun s : Score => .text (s.json.write .dense)) score).nullable
      (Cell.json? (Field.record "CodeQualityScore" Score.read)) = some score :=
  Cell.nullable_ofOption (fun _ => Cell.noConfusion) fun s hs => Cell.json_score (h s hs)

/-- A review that passes the checks is read as it was written, but for the sign of a zero cost. -/
theorem readReview_of_valid {r : Review} (h : r.Valid) :
    readReview (reviewRow r) (rowsOfFindings r) =
      some { r with costUsd := keptCost r.costUsd } := by
  have htitle := Field.checkLength_eq_good.mpr ⟨h.title, rfl⟩
  have hfindings : (rowsOfFindings r).mapM readFinding = some r.findings :=
    mapM_readFinding fun f hf i => readFinding_of_valid (h.findings f hf) r.id i
  have hmoment {value : Option Moment} (hvalue : ∀ m ∈ value, m.Storable) :
      (Cell.ofOption .ofMoment value).nullable Cell.moment? = some value :=
    Cell.nullable_ofOption (fun _ => Cell.noConfusion) fun m hm =>
      Cell.moment_ofMoment (hvalue m hm)
  simp [readReview_rows, hfindings, nullable_score h.score, htitle, Checked.toOption,
    hmoment h.startedAt, hmoment h.completedAt, Cell.moment_ofMoment h.createdAt]

theorem kept_of_valid {r : Review} (h : r.Valid) :
    kept r = { r with costUsd := keptCost r.costUsd } := by
  rw [kept, readReview_of_valid h, Option.getD_some]

/-- What is kept of a review, whether or not it passes the checks: only its score, its moments and
its cost may differ, and a score in range or a moment in range does not. -/
structure KeptAs (r q : Review) : Prop where
  same : q = { r with
    score := q.score
    startedAt := q.startedAt
    completedAt := q.completedAt
    createdAt := q.createdAt
    costUsd := q.costUsd }
  score : (∀ s ∈ r.score, s.Valid) → q.score = r.score
  startedAt : q.startedAt.isSome = r.startedAt.isSome
  completedAt : q.completedAt.isSome = r.completedAt.isSome
  createdAt : r.createdAt.Storable → q.createdAt = r.createdAt

theorem keptAs_kept (r : Review) : KeptAs r (kept r) := by
  rw [kept]
  cases hread : readReview (reviewRow r) (rowsOfFindings r) with
  | none => exact ⟨rfl, fun _ => rfl, rfl, rfl, fun _ => rfl⟩
  | some q =>
    simp only [readReview_rows, Option.bind_eq_bind, Option.bind_eq_some_iff] at hread
    obtain ⟨findings, hfindings, score, hscore, title, htitle, startedAt, hstarted, completedAt,
      hcompleted, createdAt, hcreated, hq⟩ := hread
    have hsame : findings = r.findings :=
      eq_of_mapM_readFinding (fun _ _ _ => eq_of_readFinding) hfindings
    rw [hsame, ← (Field.checkLength_eq_good.mp (eq_good_of_toOption htitle)).2] at hq
    obtain rfl := Option.some.inj hq
    refine ⟨rfl, fun hvalid => ?_, Cell.isSome_of_nullable (fun _ => Cell.noConfusion) hstarted,
      Cell.isSome_of_nullable (fun _ => Cell.noConfusion) hcompleted, fun hstorable => ?_⟩
    · rw [nullable_score hvalid] at hscore
      exact (Option.some.inj hscore).symm
    · rw [Cell.moment_ofMoment hstorable] at hcreated
      exact (Option.some.inj hcreated).symm

@[simp] theorem kept_id (r : Review) : (kept r).id = r.id := by
  rw [(keptAs_kept r).same]

@[simp] theorem kept_reviewerId (r : Review) : (kept r).reviewerId = r.reviewerId := by
  rw [(keptAs_kept r).same]

@[simp] theorem kept_description (r : Review) : (kept r).description = r.description := by
  rw [(keptAs_kept r).same]

@[simp] theorem kept_status (r : Review) : (kept r).status = r.status := by
  rw [(keptAs_kept r).same]

@[simp] theorem kept_findings (r : Review) : (kept r).findings = r.findings := by
  rw [(keptAs_kept r).same]

end Store

end ReviewDesk
