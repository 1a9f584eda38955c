import ReviewDesk.Model.Script
import ReviewDesk.Proofs.Making
import ReviewDesk.Service.Body

/-!
# How making a review ends

Making a review should end in one of three ways: it is refused and nothing has happened, it fails
and leaves a failed review and nothing counted, or it is completed and counted. The main statement
says when it does: whenever the numbers that the model and the files have a say in can be kept, and
the tally of the account has room. A completed review with a number that does not fit is lost on the
way: it stays open, and its place stays taken.
-/
namespace ReviewDesk

namespace Service

theorem readFiles_length {v : Json} {files : Files} (h : readFiles v = .good files) :
    files ≠ [] ∧ files.length ≤ fileLimit := by
  cases v with
  | obj fields =>
    obtain ⟨given, -, hg⟩ := Checked.andThen_eq_good.mp h
    split_ifs at hg with hempty hmany hblank <;> simp_all
  | _ => simp [readFiles] at h

/-- Every order that is read has a title of a review and a number of files that is kept. -/
theorem ReviewOrder.read_bounds {fields : List (String × Json)} {order : ReviewOrder}
    (h : ReviewOrder.read fields = .good order) :
    (3 ≤ order.title.length ∧ order.title.length ≤ 200) ∧
      order.files ≠ [] ∧ order.files.length ≤ fileLimit := by
  simp only [ReviewOrder.read, Checked.seq_eq_good, Checked.map_eq_good,
    Field.required_eq_good] at h
  obtain ⟨-, files, ⟨-, _, ⟨title, ⟨_, v, -, ht⟩, rfl⟩, -, rfl⟩, ⟨_, w, -, hf⟩, rfl⟩ := h
  obtain ⟨text, -, ht⟩ := Checked.andThen_eq_good.mp ht
  obtain ⟨hl, rfl⟩ := Field.checkLength_eq_good.mp ht
  exact ⟨hl, readFiles_length hf⟩

end Service

namespace Desk

open Store (fits plus)

variable {σ : Type}

/-- The three ways in which making a review of some files for an account should end. -/
inductive Settled (id : Uuid) (count : Nat) (before after : Store) : Except Failure Review → Prop
  /-- Nothing has happened. -/
  | refused {failure : Failure}
      (cause : failure = .quota ∨ ∃ tier most, failure = .planTooSmall count tier most)
      (store : after = before) : Settled id count before after (.error failure)
  /-- There is one new review, which has failed, and nothing is counted. -/
  | failed {reason : String} {q : Review} (tally : after.tally id = before.tally id)
      (reviews : after.reviews = before.reviews ++ [q]) (status : q.status = .failed)
      (owner : q.reviewerId = id) : Settled id count before after (.error (.analysis reason))
  /-- There is one new review, which is the one that is given, and it is counted. -/
  | completed {r : Review} {t : Tally} (tally : before.tally id = some t)
      (counted : after.tally id = some ⟨t.reviews + 1, t.files + count⟩)
      (reviews : after.reviews = before.reviews ++ [Store.kept r]) (status : r.status = .completed)
      (owner : r.reviewerId = id) : Settled id count before after (.ok r)

/-- A review of the files can be settled for an account with some tally. -/
def Accountable (m : Model σ) (files : Files) (d : Desk σ) (t : Tally) : Prop :=
  match modelPass m files d with
  | .error (_, issues) =>
    LinesFit issues ∧ max (plus (plus t.reviews 1) (-1)) 0 = t.reviews
  | .ok (issues, usage) =>
    Keepable files issues usage ∧ plus t.reviews 1 = t.reviews + 1 ∧
      plus t.files files.length = t.files + files.length

/-- The caller's copy and the row of the account both allow another review. -/
structure Admitted (caller : Account) (files : Files) (s : Store) (row : Account) : Prop where
  copy : checkAdmission caller files = .ok ()
  stored : s.row? caller.id = some row
  quota : row.admits row.reviewsCount = true

/-- No way of ending has a failure of the store. -/
theorem not_settled_store {id : Uuid} {count : Nat} {before after : Store} {fault : Store.Fault} :
    ¬Settled id count before after (.error (.store fault)) := by
  intro hsettled
  cases hsettled with
  | refused cause _ => simp at cause

theorem checkAdmission_error {caller : Account} {files : Files} {failure : Failure}
    (h : checkAdmission caller files = .error failure) :
    failure = .quota ∨ ∃ tier most, failure = .planTooSmall files.length tier most := by
  unfold checkAdmission at h
  split at h
  · left
    cases h
    rfl
  · split at h
    · split at h <;> cases h
      exact .inr ⟨_, _, rfl⟩
    · cases h

section Settled

variable {m : Model σ} {d : Desk σ} {caller row : Account} {title : String}
  {description : Option String} {files : Files} {r : Review} {before : Store} {t : Tally}

/-- Every order that is read can be opened as a review. -/
theorem make_of_read {fields : List (String × Json)} {order : Service.ReviewOrder}
    (h : Service.ReviewOrder.read fields = .good order) (id : Uuid) (now : Moment)
    (reviewer : Uuid) :
    ∃ r, Review.make id now reviewer order.title order.description = .good r := by
  obtain ⟨⟨hleast, hmost⟩, -⟩ := Service.ReviewOrder.read_bounds h
  refine ⟨_, (Checked.map_eq_good _).mpr ⟨order.title, ?_, rfl⟩⟩
  rw [Checked.under_eq_good, Field.checkLength_eq_good, Review.titleLimit]
  exact ⟨⟨by omega, hmost⟩, rfl⟩

theorem fits_of_read {fields : List (String × Json)} {order : Service.ReviewOrder}
    (h : Service.ReviewOrder.read fields = .good order) : fits order.files.length = true := by
  obtain ⟨-, -, hcount⟩ := Service.ReviewOrder.read_bounds h
  unfold Service.fileLimit at hcount
  rw [Store.fits_iff]
  omega

/-- Without a row that allows it, no review is made. -/
theorem settled_of_not_admitted (hkeyed : d.store.Keyed)
    (h : ¬∃ row, Admitted caller files d.store row) :
    Settled caller.id files.length d.store
      (outcome (createReview m caller title description files) d).2.store
      (outcome (createReview m caller title description files) d).1 := by
  cases hcopy : checkAdmission caller files with
  | error failure =>
    rw [outcome_createReview_refused hcopy]
    exact .refused (checkAdmission_error hcopy) rfl
  | ok _ =>
    have hnone :
        (d.store.accounts.any fun a => a.id == caller.id && Store.mayReserve a) = false := by
      rw [Store.any_row hkeyed]
      cases hrow : d.store.row? caller.id with
      | none => rfl
      | some row =>
        by_contra hq
        exact h ⟨row, hcopy, hrow, (Bool.not_eq_false _).mp hq⟩
    have hfull : d.store.reserveReview d.now caller.id = (false, d.store) := by
      rw [Store.reserveReview, hnone]
      rfl
    rw [outcome_createReview_full hcopy (by rw [hfull]), hfull]
    exact .refused (.inl rfl) rfl

/-- An admitted review is opened, and counted. -/
theorem outcome_createReview_admitted (hkeyed : d.store.Keyed)
    (hadm : Admitted caller files d.store row)
    (hmake : Review.make (d.ids d.used) d.now caller.id title description = .good r)
    (hnew : ∀ q ∈ d.store.reviews, q.id ≠ d.ids d.used) :
    ∃ s, Opened d.store.reviews row ⟨plus row.reviewsCount 1, row.filesReviewed⟩ r s ∧
      outcome (createReview m caller title description files) d =
        outcome (finish m caller files r) { d with store := s, used := d.used + 1 } := by
  obtain ⟨hcopy, hstored, hquota⟩ := hadm
  have hid := Store.row?_id hstored
  obtain ⟨hflag, hstands⟩ := (Store.stands_of_row hkeyed hstored).reserveReview d.now
  have happly : Tally.Change.reserve.apply row.admits row.tally =
      ⟨plus row.reviewsCount 1, row.filesReviewed⟩ := if_pos hquota
  rw [happly] at hstands
  rw [hid] at hflag hstands
  have hsame : (d.store.reserveReview d.now caller.id).2.reviews = d.store.reviews :=
    Store.reserveReview_reviews d.now caller.id d.store
  obtain ⟨s, hsaved, hopen⟩ := opened_of_make hstands (by rwa [hsame]) (by rwa [hid])
  rw [hsame] at hopen
  exact ⟨s, hopen, outcome_createReview_opened hcopy (hflag.trans hquota) hmake hsaved⟩

/-- An admitted review that cannot be kept stays open, and its place stays taken. -/
theorem outcome_createReview_lost {issues : List Issue} {usage : Usage} (hkeyed : d.store.Keyed)
    (hadm : Admitted caller files d.store row)
    (hmake : Review.make (d.ids d.used) d.now caller.id title description = .good r)
    (hnew : ∀ q ∈ d.store.reviews, q.id ≠ d.ids d.used) (hfiles : fits files.length = true)
    (hpass : modelPass m files d = .ok (issues, usage)) (hkeep : ¬Keepable files issues usage) :
    ∃ d' fault, outcome (createReview m caller title description files) d =
        (.error (.store fault), d') ∧
      Opened d.store.reviews row ⟨plus row.reviewsCount 1, row.filesReviewed⟩ r d'.store := by
  obtain ⟨s, hopen, hrest⟩ := outcome_createReview_admitted hkeyed hadm hmake hnew
  obtain ⟨d', fault, hend, hstore⟩ :=
    outcome_finish_overflow (d := { d with store := s, used := d.used + 1 }) hfiles hpass hkeep
  exact ⟨d', fault, hrest.trans hend, hstore ▸ hopen⟩

/-- An admitted review whose analysis fails is kept with what the model has seen until then. -/
theorem outcome_createReview_failed {fault : Model.Fault} {issues : List Issue}
    (hkeyed : d.store.Keyed) (hadm : Admitted caller files d.store row)
    (hmake : Review.make (d.ids d.used) d.now caller.id title description = .good r)
    (hnew : ∀ q ∈ d.store.reviews, q.id ≠ d.ids d.used)
    (hpass : modelPass m files d = .error (fault, issues)) (hlines : LinesFit issues)
    (hfresh : Fresh d.ids (d.used + 1) (d.used + 1 + issues.length) d.store.reviews) :
    ∃ d' q, outcome (createReview m caller title description files) d =
        (.error (.analysis fault.message), d') ∧
      d'.store.reviews = d.store.reviews ++ [q] ∧ q.status = .failed ∧
      q.findings = numbered d.ids (d.used + 1) issues := by
  obtain ⟨s, hopen, hrest⟩ := outcome_createReview_admitted hkeyed hadm hmake hnew
  obtain ⟨d', hend, -, hreviews⟩ := outcome_finish_broken
    (d := { d with store := s, used := d.used + 1 }) hopen (Store.row?_id hadm.stored).symm hfresh
    hpass hlines
  refine ⟨d', _, hrest.trans hend, hreviews, Store.kept_status _, ?_⟩
  rw [Store.kept_findings]
  exact stopped_findings hopen.blank issues

section Finish

variable {t₀ : Tally} {issues : List Issue} {usage : Usage} (hid : caller.id = row.id)
  (hbefore : before.tally caller.id = some t₀)
  (hopen : Opened before.reviews row ⟨plus t₀.reviews 1, t₀.files⟩ r d.store)
include hid hbefore hopen

/-- A review that is given up is settled if giving its place back undoes the taking of it. -/
theorem settled_finish_broken_iff {fault : Model.Fault}
    (hfresh : Fresh d.ids d.used (d.used + issues.length) before.reviews)
    (hpass : modelPass m files d = .error (fault, issues)) (hlines : LinesFit issues) :
    Settled caller.id files.length before (outcome (finish m caller files r) d).2.store
        (outcome (finish m caller files r) d).1 ↔
      max (plus (plus t₀.reviews 1) (-1)) 0 = t₀.reviews := by
  obtain ⟨d', hend, hstands, hreviews⟩ := outcome_finish_broken hopen hid hfresh hpass hlines
  have htally := hstands.tally_eq
  rw [← hid] at htally
  rw [hend]
  constructor
  · intro hsettled
    cases hsettled with
    | refused cause _ => simp at cause
    | failed tally _ _ _ =>
      rw [htally, hbefore] at tally
      exact congrArg Tally.reviews (Option.some.inj tally)
  · intro hback
    refine .failed ?_ hreviews (Store.kept_status _) ?_
    · rw [htally, hbefore]
      exact congrArg (fun n => some (Tally.mk n t₀.files)) hback
    · exact (Store.kept_reviewerId _).trans (hopen.owner.trans hid.symm)

/-- A review that is kept is settled if both numbers grow as they should. -/
theorem settled_finish_kept_iff (hfiles : fits files.length = true)
    (hfresh : Fresh d.ids d.used (d.used + (allIssues files issues).length) before.reviews)
    (hpass : modelPass m files d = .ok (issues, usage)) (hkeep : Keepable files issues usage) :
    Settled caller.id files.length before (outcome (finish m caller files r) d).2.store
        (outcome (finish m caller files r) d).1 ↔
      plus t₀.reviews 1 = t₀.reviews + 1 ∧
        plus t₀.files files.length = t₀.files + files.length := by
  obtain ⟨d', hend, hstands, hreviews⟩ := outcome_finish_kept hopen hid hfiles hfresh hpass hkeep
  have htally := hstands.tally_eq
  rw [← hid, Tally.Change.apply, if_pos hfiles] at htally
  rw [hend]
  constructor
  · intro hsettled
    cases hsettled with
    | completed tally counted _ _ _ =>
      rw [hbefore] at tally
      rw [htally, ← Option.some.inj tally] at counted
      have hcounted := Option.some.inj counted
      exact ⟨congrArg Tally.reviews hcounted, congrArg Tally.files hcounted⟩
  · rintro ⟨hplus, hplusFiles⟩
    refine .completed hbefore ?_ hreviews ?_ ?_
    · rw [htally, hplus, hplusFiles]
    · rw [found, concluded_eq]
    · rw [found, concluded_eq]
      exact hopen.owner.trans hid.symm

/-- From an open review on, the end is as it should be if the review can be settled. -/
theorem settled_finish_iff (hfiles : fits files.length = true)
    (hfresh : Fresh d.ids d.used (outcome (finish m caller files r) d).2.used before.reviews) :
    Settled caller.id files.length before (outcome (finish m caller files r) d).2.store
        (outcome (finish m caller files r) d).1 ↔
      Accountable m files d t₀ := by
  unfold Accountable
  cases hpass : modelPass m files d with
  | error pass =>
    obtain ⟨fault, issues⟩ := pass
    rw [used_finish_fault hpass] at hfresh
    by_cases hlines : LinesFit issues
    · rw [settled_finish_broken_iff hid hbefore hopen hfresh hpass hlines]
      exact (and_iff_right hlines).symm
    · obtain ⟨d', lost, hend⟩ := outcome_finish_stuck caller hopen.blank hpass hlines
      rw [hend]
      exact iff_of_false not_settled_store fun h => hlines h.1
  | ok pass =>
    obtain ⟨issues, usage⟩ := pass
    rw [used_finish_found hfiles hpass] at hfresh
    by_cases hkeep : Keepable files issues usage
    · rw [settled_finish_kept_iff hid hbefore hopen hfiles hfresh hpass hkeep]
      exact (and_iff_right hkeep).symm
    · obtain ⟨d', fault, hend, -⟩ := outcome_finish_overflow hfiles hpass hkeep
      rw [hend]
      exact iff_of_false not_settled_store fun h => hkeep h.1

end Finish

end Settled

/-- An account with three reviews. -/
def regular : Account where
  id := Uuid.ofNat 0x11111111111141118111111111111111
  username := "ada"
  email := "ada@example.com"
  reviewsCount := 3
  filesReviewed := 7
  createdAt := ⟨0, some 0⟩
  updatedAt := ⟨0, some 0⟩

/-- A desk with one account and a model that has one reply. -/
def deskWith (reply : Model.Reply) : Desk Model.Script where
  store := { accounts := [regular] }
  now := ⟨1, some 0⟩
  ids k := Uuid.ofNat (k + 2)
  model := { name := "script", replies := [reply] }

/-- What becomes of a small review at that desk. -/
def smallReview (reply : Model.Reply) : Except Failure Review × Desk Model.Script :=
  outcome (createReview (Model.Script.model "script") regular "Small review" none [("a.txt", "x")])
    (deskWith reply)

/-- A reply with a finding in line 2 ^ 63. -/
def farLine : Model.Reply :=
  .text ("[\x7b\"title\":\"Bug\",\"description\":\"d\",\"severity\":\"HIGH\"," ++
    "\"category\":\"BUG\",\"lineNumber\":9223372036854775808\x7d]") 1 1

theorem modelPass_farLine : ∃ issues usage,
    modelPass (Model.Script.model "script") [("a.txt", "x")] (deskWith farLine) =
        .ok (issues, usage) ∧
      ∃ issue ∈ issues, issue.line = some 9223372036854775808 := by
  have hlines : (modelPass (Model.Script.model "script") [("a.txt", "x")]
      (deskWith farLine)).toOption.map (fun pass => pass.1.map (·.line)) =
        some [some 9223372036854775808] := by decide +kernel
  cases hpass : modelPass (Model.Script.model "script") [("a.txt", "x")] (deskWith farLine) with
  | error fault => simp [hpass, Except.toOption] at hlines
  | ok pass =>
    obtain ⟨issues, usage⟩ := pass
    simp only [hpass, Except.toOption, Option.map_some, Option.some.injEq] at hlines
    refine ⟨issues, usage, rfl, List.mem_map.mp ?_⟩
    rw [hlines]
    exact List.mem_singleton_self _

end Desk

end ReviewDesk
