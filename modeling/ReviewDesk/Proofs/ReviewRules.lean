import Mathlib.Data.List.Basic
import Mathlib.Data.List.Flatten
import Mathlib.Data.List.Perm.Basic
import ReviewDesk.Proofs.AccountRules
import ReviewDesk.Proofs.Checks
import ReviewDesk.Proofs.ModelPass
import ReviewDesk.Proofs.Settlement

/-!
# What holds of the reviews in the store

A review comes into the store only for an account that is there, as pending, completed or failed,
and stays as it is but for the flags of its findings. The findings are looked at as rows of their
own, each with its review and its position, in order to say what goes with an account. A failed
review has no findings, unless the model was done with it and its files could not be checked.
-/
namespace ReviewDesk

/-- A finding as a row of its own. -/
structure FindingRow where
  review : Uuid
  position : Nat
  finding : Finding

/-- The findings of a review as rows. -/
def Review.findingRows (r : Review) : List FindingRow :=
  r.findings.zipIdx.map fun (f, k) => ⟨r.id, k, f⟩

/-- All findings in the store as rows. -/
def Store.findingRows (s : Store) : List FindingRow := s.reviews.flatMap Review.findingRows

namespace Review

variable {r : Review}

theorem review_of_mem_findingRows {row : FindingRow} (h : row ∈ r.findingRows) :
    row.review = r.id := by
  obtain ⟨_, -, rfl⟩ := List.mem_map.mp h
  rfl

/-- The rows hold the findings in their order. -/
theorem map_findingRows {β : Type} (r : Review) (f : Finding → β) :
    r.findingRows.map (fun row => f row.finding) = r.findings.map f := by
  conv_rhs => rw [← List.zipIdx_map_fst 0 r.findings, List.map_map]
  rw [findingRows, List.map_map]
  rfl

theorem length_findingRows (r : Review) : r.findingRows.length = r.findings.length := by
  rw [findingRows, List.length_map, List.length_zipIdx]

theorem findingRows_of_bare (h : r.findings = []) : r.findingRows = [] := by
  rw [findingRows, h]
  rfl

theorem map_position_findingRows (r : Review) :
    r.findingRows.map (·.position) = List.range r.findings.length := by
  rw [findingRows, List.map_map, List.range_eq_range']
  exact List.zipIdx_map_snd 0 r.findings

end Review

/-- Only the categories and the severities of issues make their score. -/
theorem Score.ofIssues_congr {xs ys : List Issue}
    (h : xs.map (fun i => (i.category, i.severity)) = ys.map fun i => (i.category, i.severity)) :
    Score.ofIssues xs = Score.ofIssues ys := by
  have hremaining (full : Int) (counts : Category → Bool) (cost : Severity → Int) :
      remaining full counts cost xs = remaining full counts cost ys := by
    have hfold (issues : List Issue) : remaining full counts cost issues =
        max 0 ((issues.map fun i => (i.category, i.severity)).foldl
          (fun n i => if counts i.1 then n - cost i.2 else n) full) := by
      rw [List.foldl_map, remaining]
    rw [hfold, hfold, h]
  simp only [ofIssues, partsOf, ofCategory, hremaining]

/-- A finding that is resolved counts as before. -/
theorem Review.Sound.setResolved {unchecked : Prop} {r : Review} (h : r.Sound unchecked)
    (finding : Uuid) (flag : Bool) : (r.setResolved finding flag).Sound unchecked := by
  have hscore : Score.ofIssues (r.setResolved finding flag).issues = Score.ofIssues r.issues := by
    apply Score.ofIssues_congr
    simp only [Review.issues, Review.setResolved, List.map_map]
    refine List.map_congr_left fun f _ => ?_
    simp only [Function.comp_apply]
    split <;> rfl
  have hbare : r.findings = [] → (r.setResolved finding flag).findings = [] := by
    intro hnone
    rw [Review.setResolved, hnone, List.map_nil]
  have hsame : (r.setResolved finding flag).status = r.status := rfl
  unfold Review.Sound at *
  rw [hsame]
  cases hstatus : r.status with
  | pending =>
    rw [hstatus] at h
    exact ⟨h.1, hbare h.2⟩
  | inProgress => rw [hstatus] at h; exact h
  | completed =>
    rw [hstatus] at h
    exact ⟨h.1, h.2.1, by rw [hscore]; exact h.2.2⟩
  | failed =>
    rw [hstatus] at h
    exact ⟨h.1, h.2.1.imp_left hbare, h.2.2⟩

/-- A review keeps all that its status asks for. -/
theorem Review.Sound.kept {unchecked : Prop} {r : Review} (h : r.Sound unchecked) :
    (Store.kept r).Sound unchecked := by
  obtain ⟨-, hscore, hstarted, hcompleted, -⟩ := Store.keptAs_kept r
  have hnone (hr : r.score = none) : (Store.kept r).score = none :=
    (hscore (by simp [hr])).trans hr
  have hissues : (Store.kept r).issues = r.issues := by simp only [issues, Store.kept_findings]
  unfold Review.Sound at *
  rw [Store.kept_status, Store.kept_findings, Store.kept_description, hissues, hstarted, hcompleted]
  cases hstatus : r.status with
  | pending =>
    rw [hstatus] at h
    exact ⟨hnone h.1, h.2⟩
  | inProgress => rw [hstatus] at h; exact h
  | completed =>
    rw [hstatus] at h
    have hvalid : ∀ s ∈ r.score, s.Valid := by
      rw [h.2.2]
      rintro s ⟨⟩
      exact Score.valid_ofIssues r.issues
    exact ⟨h.1, h.2.1, (hscore hvalid).trans h.2.2⟩
  | failed =>
    rw [hstatus] at h
    exact ⟨hnone h.1, h.2⟩

namespace Store

/-- Every review is sound and of an account that is there, and identifiers are unique. -/
structure Coherent (unchecked : Prop) (s : Store) : Prop where
  ids : (s.reviews.map (·.id)).Nodup
  findings : (s.reviews.flatMap fun r => r.findings.map (·.id)).Nodup
  owned : ∀ r ∈ s.reviews, r.reviewerId ∈ s.accounts.map (·.id)
  sound : ∀ r ∈ s.reviews, r.Sound unchecked

theorem mem_putReview {r x : Review} {rs : List Review} (h : x ∈ putReview r rs) :
    x = r ∨ x ∈ rs := by
  induction rs with
  | nil => exact .inl (List.mem_singleton.mp h)
  | cons q rest ih =>
    rw [putReview] at h
    split at h
    · rcases List.mem_cons.mp h with rfl | h
      · exact .inl rfl
      · exact .inr (List.mem_cons_of_mem _ h)
    · rcases List.mem_cons.mp h with rfl | h
      · exact .inr List.mem_cons_self
      · exact (ih h).imp_right (List.mem_cons_of_mem _)

/-- A review takes the place of the one with its identifier. -/
theorem putReview_perm {r : Review} {rs : List Review} (h : (rs.map (·.id)).Nodup) :
    (putReview r rs).Perm (r :: rs.filter (·.id != r.id)) := by
  induction rs with
  | nil => exact .refl _
  | cons q rest ih =>
    rw [List.map_cons, List.nodup_cons] at h
    by_cases hq : q.id = r.id
    · have hrest : rest.filter (·.id != r.id) = rest := by
        rw [List.filter_eq_self]
        intro p hp
        rw [bne_iff_ne, ← hq]
        exact fun he => h.1 (he ▸ List.mem_map_of_mem hp)
      simp [putReview, hq, hrest]
    · have hswap := ((ih h.2).cons q).trans (.swap r q _)
      simpa [putReview, hq] using hswap

theorem putReview_nodup {r : Review} {rs : List Review} (h : (rs.map (·.id)).Nodup) :
    ((putReview r rs).map (·.id)).Nodup := by
  rw [((putReview_perm h).map _).nodup_iff, List.map_cons, List.nodup_cons]
  refine ⟨?_, h.sublist (List.filter_sublist.map _)⟩
  intro hid
  obtain ⟨q, hq, he⟩ := List.mem_map.mp hid
  have hne := (List.mem_filter.mp hq).2
  rw [bne_iff_ne] at hne
  exact hne he

namespace Coherent

variable {s s' : Store} {unchecked : Prop}

/-- Accounts may change as long as none goes. -/
theorem of_accounts (hs : s.Coherent unchecked) (hreviews : s'.reviews = s.reviews)
    (hids : s.accounts.map (·.id) ⊆ s'.accounts.map (·.id)) : s'.Coherent unchecked := by
  obtain ⟨ids, findings, owned, sound⟩ := hs
  rw [← hreviews] at ids findings owned sound
  exact ⟨ids, findings, fun r hr => hids (owned r hr), sound⟩

/-- Reviews may go, and accounts that have none left. -/
theorem filter (hs : s.Coherent unchecked) {keep : Review → Bool} {stay : Account → Bool}
    (h : ∀ r ∈ s.reviews, keep r → ∀ a ∈ s.accounts, a.id = r.reviewerId → stay a) :
    Coherent unchecked ⟨s.accounts.filter stay, s.reviews.filter keep⟩ where
  ids := hs.ids.sublist (List.filter_sublist.map _)
  findings := hs.findings.sublist (List.filter_sublist.flatMap _)
  owned r hr := by
    obtain ⟨hr, hkeep⟩ := List.mem_filter.mp hr
    obtain ⟨a, ha, hid⟩ := List.mem_map.mp (hs.owned r hr)
    exact List.mem_map.mpr ⟨a, List.mem_filter.mpr ⟨ha, h r hr hkeep a ha hid⟩, hid⟩
  sound r hr := hs.sound r (List.mem_filter.mp hr).1

theorem saveReview {r : Review} (hs : s.Coherent unchecked) (hr : r.Sound unchecked)
    (h : s.saveReview r = .ok s') : s'.Coherent unchecked := by
  obtain ⟨-, howner, hcheck, rfl⟩ := saveReview_eq_ok_iff.mp h
  obtain ⟨-, hnodup, hnew⟩ := (checkFindings_eq_ok_iff _ _).mp hcheck
  have hperm : (putReview (kept r) s.reviews).Perm (kept r :: s.reviews.filter (·.id != r.id)) :=
    kept_id r ▸ putReview_perm hs.ids
  constructor
  · exact putReview_nodup hs.ids
  · rw [(hperm.flatMap_right _).nodup_iff, List.flatMap_cons, List.nodup_append, kept_findings]
    refine ⟨hnodup, hs.findings.sublist (List.filter_sublist.flatMap _), ?_⟩
    rintro id hid _ hother rfl
    obtain ⟨f, hf, rfl⟩ := List.mem_map.mp hid
    exact hnew f hf hother
  · intro q hq
    rcases mem_putReview hq with rfl | hq
    · obtain ⟨a, ha, hid⟩ := List.any_eq_true.mp howner
      exact List.mem_map.mpr ⟨a, ha, (eq_of_beq hid).trans (kept_reviewerId r).symm⟩
    · exact hs.owned q hq
  · intro q hq
    rcases mem_putReview hq with rfl | hq
    · exact hr.kept
    · exact hs.sound q hq

theorem setResolved (hs : s.Coherent unchecked) (review finding : Uuid) (flag : Bool) :
    (s.setResolved review finding flag).2.Coherent unchecked := by
  have hsame {α : Type} (g : Review → α)
      (hg : ∀ r : Review, g (r.setResolved finding flag) = g r) (r : Review) :
      g (if r.id == review then r.setResolved finding flag else r) = g r := by
    split
    · exact hg r
    · rfl
  have hfindings (r : Review) :
      (r.setResolved finding flag).findings.map (·.id) = r.findings.map (·.id) := by
    rw [Review.setResolved, List.map_map]
    refine List.map_congr_left fun f _ => ?_
    simp only [Function.comp_apply]
    split <;> rfl
  constructor
  · rw [Store.setResolved, List.map_map]
    exact List.map_congr_left (fun r _ => hsame (·.id) (fun _ => rfl) r) ▸ hs.ids
  · rw [Store.setResolved, List.flatMap_map]
    rw [funext (hsame (fun r => r.findings.map (·.id)) hfindings)]
    exact hs.findings
  · intro q hq
    obtain ⟨r, hr, rfl⟩ := List.mem_map.mp hq
    have howned := hs.owned r hr
    split
    · exact howned
    · exact howned
  · intro q hq
    obtain ⟨r, hr, rfl⟩ := List.mem_map.mp hq
    have hsound := hs.sound r hr
    split
    · exact hsound.setResolved finding flag
    · exact hsound

theorem step {fit : Review → Prop} (hs : s.Coherent unchecked)
    (hfit : ∀ r, fit r → r.Sound unchecked) (h : Step fit s s') : s'.Coherent unchecked := by
  cases h with
  | join _ _ h =>
    obtain ⟨-, rfl⟩ := saveAccount_eq_ok h
    exact hs.of_accounts rfl (ids_putRow_subset _ _)
  | write _ _ h =>
    obtain ⟨-, rfl⟩ := saveAccount_eq_ok h
    exact hs.of_accounts rfl (ids_putRow_subset _ _)
  | leave id =>
    refine hs.filter fun r _ hkeep a _ ha => ?_
    rwa [ha]
  | count now id hc =>
    have hcounted := recounted_run hc now id s
    have hids := hcounted.ids
    obtain ⟨f, hf, -⟩ := hcounted
    refine hs.of_accounts (by rw [hf]) ?_
    rw [hids]
    exact List.Subset.refl _
  | keep hr h => exact hs.saveReview (hfit _ hr) h
  | drop id =>
    have hfilter :
        Coherent unchecked ⟨s.accounts.filter fun _ => true, s.reviews.filter (·.id != id)⟩ :=
      hs.filter fun _ _ _ _ _ _ => rfl
    rwa [List.filter_true] at hfilter
  | resolve review finding flag => exact hs.setResolved review finding flag

end Coherent

/-- Rows of findings that are chosen by their reviews are the rows of the chosen reviews. -/
theorem filter_findingRows {s : Store} (hids : (s.reviews.map (·.id)).Nodup) (p : Review → Bool) :
    (s.findingRows.filter fun row => s.reviews.any fun r => r.id == row.review && p r) =
      (s.reviews.filter p).flatMap Review.findingRows := by
  -- A row names one review only, so all rows of a review are chosen or none is.
  have hrows (r : Review) (hr : r ∈ s.reviews) :
      (r.findingRows.filter fun row => s.reviews.any fun q => q.id == row.review && p q) =
        if p r then r.findingRows else [] := by
    have hchosen (row : FindingRow) (hrow : row ∈ r.findingRows) :
        (s.reviews.any fun q => q.id == row.review && p q) = p r := by
      rw [Review.review_of_mem_findingRows hrow, Bool.eq_iff_iff, List.any_eq_true]
      constructor
      · rintro ⟨q, hq, hp⟩
        simp only [Bool.and_eq_true, beq_iff_eq] at hp
        rw [List.inj_on_of_nodup_map hids hr hq hp.1.symm]
        exact hp.2
      · intro hp
        exact ⟨r, hr, by simp [hp]⟩
    rw [List.filter_congr hchosen]
    cases p r <;> simp
  rw [findingRows, List.filter_flatMap, List.flatMap_congr hrows]
  generalize s.reviews = reviews
  induction reviews with
  | nil => rfl
  | cons r rest ih => cases hp : p r <;> simp [hp, ih]

theorem filter_id_eq {rs : List Review} (hids : (rs.map (·.id)).Nodup) {r : Review}
    (hr : r ∈ rs) : rs.filter (·.id == r.id) = [r] := by
  induction rs with
  | nil => cases hr
  | cons q rest ih =>
    rw [List.map_cons, List.nodup_cons] at hids
    rcases List.mem_cons.mp hr with rfl | hr
    · have hrest : rest.filter (·.id == r.id) = [] := by
        rw [List.filter_eq_nil_iff]
        intro p hp he
        exact hids.1 (eq_of_beq he ▸ List.mem_map_of_mem hp)
      simp [hrest]
    · have hne : q.id ≠ r.id := fun he => hids.1 (he ▸ List.mem_map_of_mem hr)
      simp [hne, ih hids.2 hr]

/-- The rows of one review. -/
theorem filter_findingRows_eq {s : Store} (hids : (s.reviews.map (·.id)).Nodup) {r : Review}
    (hr : r ∈ s.reviews) : s.findingRows.filter (·.review == r.id) = r.findingRows := by
  have hrows := filter_findingRows hids (·.id == r.id)
  rw [filter_id_eq hids hr, List.flatMap_singleton] at hrows
  rw [← hrows]
  refine List.filter_congr fun row _ => ?_
  rw [Bool.eq_iff_iff, beq_iff_eq, List.any_eq_true]
  constructor
  · intro hrow
    exact ⟨r, hr, by simp [hrow]⟩
  · rintro ⟨q, -, hq⟩
    simp only [Bool.and_eq_true, beq_iff_eq] at hq
    exact hq.1.symm.trans hq.2

end Store

theorem ReachableBy.coherent {allowed : Moment → Operation → Prop} {s : Store}
    (hs : ReachableBy allowed s) : s.Coherent (∃ now op, allowed now op ∧ op.IsUnchecked) := by
  refine hs.induct ⟨by simp, by simp, by simp, by simp⟩ ?_
  intro now op hop s s' h _ hs
  exact hs.step (fun r hr => hr.sound.imp fun hunchecked => ⟨now, op, hop, hunchecked⟩) h

/-- What goes with an account: its row, its reviews and their findings. -/
structure Store.Without (id : Uuid) (s s' : Store) : Prop where
  accounts : s'.accounts = s.accounts.filter (·.id != id)
  reviews : s'.reviews = s.reviews.filter (·.reviewerId != id)
  findingRows : s'.findingRows = s.findingRows.filter fun row =>
    s.reviews.any fun r => r.id == row.review && r.reviewerId != id

/-- An account that is not an administrator's can be deleted, and nothing else goes with it. -/
theorem Desk.outcome_deleteAccount {σ : Type} {d : Desk σ} {id : Uuid} {a : Account}
    (hids : (d.store.reviews.map (·.id)).Nodup) (hrow : d.store.getAccount id = .ok (some a))
    (hadmin : a.isAdmin = false) :
    ∃ s', Desk.outcome (Desk.deleteAccount id) d = (.ok (), { d with store := s' }) ∧
      d.store.Without id s' := by
  have hload := outcome_accountOf d id
  rw [hrow] at hload
  refine ⟨d.store.deleteAccount id, ?_, rfl, rfl, ?_⟩
  · rw [deleteAccount, outcome_bind_ok hload]
    simp [hadmin]
  · exact (Store.filter_findingRows hids _).symm

theorem Desk.deleteAccount_failed {σ : Type} {d d' : Desk σ} {id : Uuid} {failure : Failure}
    (h : Desk.outcome (Desk.deleteAccount id) d = (.error failure, d')) : d'.store = d.store := by
  have hload := outcome_accountOf d id
  rw [deleteAccount, outcome_bind, hload] at h
  split at h
  · next account _ heq =>
    obtain ⟨-, rfl⟩ := Prod.mk.inj heq
    split at h
    · cases h
      rfl
    · cases h
  · next heq =>
    obtain ⟨-, rfl⟩ := Prod.mk.inj heq
    cases h
    rfl

/-- Two reviews of one account: the model is not asked about no files, and then breaks down. -/
def twoReviews : Store :=
  storeAfter [.broken "down"] [
    .register "ada" "ada@example.com" "password" none,
    .createReview (Uuid.ofNat 2) "First" none [],
    .createReview (Uuid.ofNat 2) "Second" none [("a.txt", "x")]]

theorem reachable_twoReviews : ReachableBy (fun _ op => ¬op.IsUnchecked) twoReviews := by
  refine ReachableBy.runAll _ _ ?_ .empty
  have htext : Inspection.isTooDeep "a.txt" "x" = false := by decide +kernel
  simp [Operation.IsUnchecked, htext]

/-- The reviews and the account, evaluated. -/
theorem twoReviews_eval :
    (twoReviews.reviews.map fun r => (r.id, r.status, r.findings.map (·.id))) =
        [(Uuid.ofNat 3, .completed, []), (Uuid.ofNat 4, .failed, [])] ∧
      (twoReviews.row? (Uuid.ofNat 2)).any (fun a =>
        decide (twoReviews.getAccount (Uuid.ofNat 2) = .ok (some a) ∧ a.canCreateReview = true ∧
          a.maxFiles = some 10 ∧ a.admits a.reviewsCount = true)) = true := by
  decide +kernel

section Unchecked

open Desk

/-- What a model says that sees one bug. -/
def bugText : String := "[\x7b\"title\": \"Bug\"\x7d]"

theorem parse_bugText :
    ∃ bug, Model.parseReply "a.py" (Model.stripFences bugText) = .ok [bug] ∧
      bug.title = "Bug" ∧ bug.line = none ∧ bug.endLine = none := by
  have hread : (Model.parseReply "a.py" (Model.stripFences bugText)).toOption.map
      (·.map fun i => (i.title, i.line, i.endLine)) = some [("Bug", none, none)] := by
    decide +kernel
  cases hparse : Model.parseReply "a.py" (Model.stripFences bugText) with
  | error fault =>
    rw [hparse] at hread
    cases hread
  | ok all =>
    rw [hparse] at hread
    obtain ⟨bug, rfl, hbug⟩ := List.map_eq_singleton_iff.mp (Option.some.inj hread)
    simp only [Prod.mk.injEq] at hbug
    exact ⟨bug, rfl, hbug⟩

/-- A desk with the two reviews, whose model sees one bug. -/
def bugDesk : Desk Model.Script :=
  { newDesk [.text bugText 1 1] with store := twoReviews, used := 9 }

/-- The analysis of a file that cannot be checked fails when the model has seen the bug. -/
theorem modelPass_bugDesk {source : String} (hdeep : Inspection.isTooDeep "a.py" source = true) :
    ∃ bug, modelPass (Model.Script.model "script") [("a.py", source)] bugDesk =
        .error (.broken "", [bug]) ∧ bug.title = "Bug" ∧ LinesFit [bug] := by
  obtain ⟨bug, hparse, htitle, hline, hendLine⟩ := parse_bugText
  have hasked : ((Model.Script.model "script").askAll {} [("a.py", source)] bugDesk.model).1 =
      [⟨("a.py", source), .ok ⟨bugText, 1, 1, "script"⟩⟩] := rfl
  have hanswers : ∀ x ∈ [] ++ ((Model.Script.model "script").askAll {} [("a.py", source)]
      bugDesk.model).1, x.Acceptable := by
    simp [hasked, Model.Exchange.Acceptable]
  obtain ⟨blocks, usage, hrun, hblocks, -⟩ := Model.analyzeProject_step (by decide)
    (Model.accounts_nil {} "script") hanswers (by simp)
  rw [hasked] at hblocks
  obtain _ | ⟨hblock, ⟨⟩⟩ := hblocks
  obtain rfl := hblock.read _ _ rfl hparse
  refine ⟨bug, ?_, htitle, by simp [LinesFit, hline, hendLine]⟩
  have hname : (Model.Script.model "script").name = "script" := rfl
  rw [modelPass, hname, hrun]
  simp [Inspection.run, hdeep]

/-- The account at the desk may have another review of one file. -/
theorem bugDesk_admits (source : String) :
    ∃ row, outcome (accountOf (Uuid.ofNat 2)) bugDesk = (.ok row, bugDesk) ∧
      Admitted row [("a.py", source)] bugDesk.store row := by
  obtain ⟨row, hrow, hadmits⟩ := (Option.any_eq_true _ _).mp twoReviews_eval.2
  rw [decide_eq_true_eq] at hadmits
  obtain ⟨hget, hcan, hmost, hquota⟩ := hadmits
  refine ⟨row, ?_, ?_, ?_, hquota⟩
  · have hload : bugDesk.store.getAccount (Uuid.ofNat 2) = .ok (some row) := hget
    rw [outcome_accountOf, hload]
  · simp [checkAdmission, hcan, hmost]
  · rw [Store.row?_id hrow]
    exact hrow

/-- The next identifiers at the desk are new. -/
theorem bugDesk_fresh :
    (∀ q ∈ bugDesk.store.reviews, q.id ≠ bugDesk.ids bugDesk.used) ∧
      Fresh bugDesk.ids (bugDesk.used + 1) (bugDesk.used + 2) bugDesk.store.reviews := by
  have hids : ∀ q ∈ bugDesk.store.reviews, q.id ≠ Uuid.ofNat 10 ∧ q.findings.map (·.id) = [] := by
    intro q hq
    have hmem : (q.id, q.status, q.findings.map (·.id)) ∈
        twoReviews.reviews.map fun r => (r.id, r.status, r.findings.map (·.id)) :=
      List.mem_map_of_mem hq
    rw [twoReviews_eval.1] at hmem
    simp only [List.mem_cons, Prod.mk.injEq, List.not_mem_nil, or_false] at hmem
    rcases hmem with ⟨hid, -, hbare⟩ | ⟨hid, -, hbare⟩ <;> exact ⟨by rw [hid]; decide, hbare⟩
  refine ⟨fun q hq => (hids q hq).1, ?_, ?_⟩
  · intro k _ q hq f hf
    rw [List.map_eq_nil_iff.mp (hids q hq).2] at hf
    cases hf
  · intro j hj k hk _
    simp only [Set.mem_Ico] at hj hk
    omega

/-- The account asks for a review of one file. -/
def deepReview (source : String) : Operation :=
  .createReview (Uuid.ofNat 2) "Third" none [("a.py", source)]

/-- A review of a file that cannot be checked is kept as failed, with the bug. -/
theorem outcome_deepReview {source : String} (hdeep : Inspection.isTooDeep "a.py" source = true) :
    ∃ d' q, outcome ((deepReview source).task (Model.Script.model "script") { secret := "secret" })
        bugDesk = (.error (.analysis ""), d') ∧
      q ∈ d'.store.reviews ∧ q.status = .failed ∧ q.findings.map (·.title) = ["Bug"] := by
  obtain ⟨bug, hpass, htitle, hlines⟩ := modelPass_bugDesk hdeep
  obtain ⟨row, hload, hadm⟩ := bugDesk_admits source
  obtain ⟨r, hmake⟩ : ∃ r, Review.make (bugDesk.ids bugDesk.used) bugDesk.now row.id "Third" none =
      .good r := ⟨_, rfl⟩
  obtain ⟨hnew, hfresh⟩ := bugDesk_fresh
  have hkeyed : bugDesk.store.Keyed := reachable_twoReviews.keyed
  obtain ⟨d', q, hend, hreviews, hstatus, hfindings⟩ := outcome_createReview_failed hkeyed hadm
    hmake hnew hpass hlines hfresh
  refine ⟨d', q, ?_, by simp [hreviews], hstatus, by simp [hfindings, numbered, htitle]⟩
  rw [deepReview, Operation.task, outcome_bind_ok hload]
  exact outcome_bind_error hend

end Unchecked

end ReviewDesk
