import Mathlib.Logic.Relation
import ReviewDesk.Proofs.ProfileWrites

/-!
# What may happen to the store

Whatever the desk is asked to do, it changes the store in few ways: an account is added, written
back, counted for or removed, and a review is kept, removed or has a finding resolved. A `Step` is
one such change with what the desk has made sure of before it. What holds of every store that the
desk can get to is then a matter of these steps alone.
-/
namespace ReviewDesk

/-- A row of an account as the desk leaves it. -/
structure Account.Regular (a : Account) : Prop where
  username : 1 ≤ a.username.length ∧ a.username.length ≤ Account.usernameLimit
  /-- The account is linked to GitHub with all that belongs to it, or not at all. -/
  linked : a.githubUsername.isSome = a.githubId.isSome ∧ a.githubToken.isSome = a.githubId.isSome
  limit : ∀ n ∈ a.usageLimit, a.isSpecial = true ∧ 1 ≤ n
  reviews : 0 ≤ a.reviewsCount
  files : 0 ≤ a.filesReviewed

/-- A review as the desk leaves it: what it has depends on how far it came. A failed one has
findings only if the checks were not possible after the model had found something, and then there
is no reason to tell. -/
def Review.Sound (unchecked : Prop) (r : Review) : Prop :=
  match r.status with
  | .pending => r.score = none ∧ r.findings = []
  | .inProgress => False
  | .completed => r.startedAt.isSome ∧ r.completedAt.isSome ∧
      r.score = some (Score.ofIssues r.issues)
  | .failed => r.score = none ∧
      (r.findings = [] ∨ unchecked ∧ r.description = some "Analysis failed: ") ∧
      ∃ reason text, r.description = some text ∧
        text.length ≤ Review.reasonLimit ∧ text.toList <+: ("Analysis failed: " ++ reason).toList

theorem Review.Sound.imp {unchecked unchecked' : Prop} (h : unchecked → unchecked') {r : Review}
    (hr : r.Sound unchecked) : r.Sound unchecked' := by
  unfold Review.Sound at *
  cases hstatus : r.status with
  | failed =>
    rw [hstatus] at hr
    exact ⟨hr.1, hr.2.1.imp_right (And.imp_left h), hr.2.2⟩
  | _ =>
    rw [hstatus] at hr
    exact hr

/-- What a change of a profile may ask for, given the row that it is made to. -/
def ProfileWrite.Fitting (a : Account) : ProfileWrite → Prop
  | gitHubSignIn _ _ _ => a.githubId.isSome
  | update u => ∀ n ∈ u.usageLimit, 1 ≤ n
  | _ => True

/-- Files are added and never taken away. -/
def Tally.Change.Fitting : Tally.Change → Prop
  | addFiles count => 0 ≤ count
  | _ => True

namespace Store

/-- One change of the store. Only some reviews are fit to be kept. -/
inductive Step (fit : Review → Prop) (s : Store) : Store → Prop
  /-- A new account comes in under an e-mail address that is not there yet. -/
  | join {now : Moment} {a row : Account} {s' : Store} (hregular : a.Regular)
      (hemail : s.accountWithEmail a.email = .ok none)
      (h : s.saveAccount now a = .ok (row, s')) : Step fit s s'
  /-- A profile is changed, starting from the row as it is. -/
  | write {now : Moment} {a row : Account} {s' : Store} {w : ProfileWrite}
      (hrow : s.getAccount a.id = .ok (some a)) (hw : w.Fitting a)
      (h : s.saveAccount now (w.onto a) = .ok (row, s')) : Step fit s s'
  | leave (id : Uuid) : Step fit s (s.deleteAccount id)
  | count (now : Moment) (id : Uuid) {c : Tally.Change} (hc : c.Fitting) :
      Step fit s (c.run now id s)
  | keep {r : Review} {s' : Store} (hr : fit r) (h : s.saveReview r = .ok s') : Step fit s s'
  | drop (id : Uuid) : Step fit s (s.deleteReview id)
  | resolve (review finding : Uuid) (flag : Bool) :
      Step fit s (s.setResolved review finding flag).2

/-- One change of the store while a review is made for its owner. -/
inductive Making (owner id : Uuid) (fit : Review → Prop) (s : Store) : Store → Prop
  | count (now : Moment) {c : Tally.Change} (hc : c.Fitting) :
      Making owner id fit s (c.run now owner s)
  | keep {r : Review} {s' : Store} (hid : r.id = id) (howner : r.reviewerId = owner)
      (hr : fit r) (h : s.saveReview r = .ok s') : Making owner id fit s s'

theorem Making.step {owner id : Uuid} {fit : Review → Prop} {s s' : Store}
    (h : Making owner id fit s s') : Step fit s s' := by
  cases h with
  | count now hc => exact .count now owner hc
  | keep _ _ hr h => exact .keep hr h

/-! ## Accounts after a step -/

variable {s s' : Store} {id : Uuid} {fit : Review → Prop} {x : Account}

theorem mem_putRow {a : Account} {rows : List Account} (h : x ∈ putRow a rows) :
    x = a ∨ x ∈ rows := by
  induction rows with
  | nil => exact .inl (List.mem_singleton.mp h)
  | cons b rest ih =>
    rw [putRow] at h
    split at h
    · rcases List.mem_cons.mp h with rfl | h
      · exact .inl rfl
      · exact .inr (List.mem_cons_of_mem _ h)
    · rcases List.mem_cons.mp h with rfl | h
      · exact .inr List.mem_cons_self
      · exact (ih h).imp_right (List.mem_cons_of_mem _)

theorem ids_putRow_subset (a : Account) (rows : List Account) :
    rows.map (·.id) ⊆ (putRow a rows).map (·.id) := by
  induction rows with
  | nil => exact List.nil_subset _
  | cons b rest ih =>
    rw [putRow]
    split
    · next hb => simp [eq_of_beq hb]
    · exact List.cons_subset_cons _ ih

/-- Nobody else has the name or the GitHub identity of an account that is saved. -/
theorem saveAccount_apart {now : Moment} {a row : Account}
    (h : s.saveAccount now a = .ok (row, s')) (hx : x ∈ s.accounts) (hne : a.id ≠ x.id) :
    a.username ≠ x.username ∧ (a.githubId.isSome → a.githubId ≠ x.githubId) := by
  dsimp only [saveAccount] at h
  split at h
  · cases h
  · split at h
    · cases h
    · next hclash =>
      have hfree := List.any_eq_false.mp (Bool.not_eq_true _ ▸ hclash) x hx
      simp only [clashes, Bool.and_eq_true, bne_iff_ne, ne_eq, Bool.or_eq_true, beq_iff_eq,
        not_and, not_or] at hfree
      exact ⟨(hfree hne).1.1, (hfree hne).2⟩

theorem loadFirst_eq_none {rows : List Account} (h : loadFirst rows = .ok none) : rows = [] := by
  cases rows with
  | nil => rfl
  | cons row rest =>
    rw [loadFirst] at h
    cases hload : loadRow row <;> simp [hload, Except.map] at h

theorem email_ne_of_accountWithEmail {email : String} (h : s.accountWithEmail email = .ok none)
    (hx : x ∈ s.accounts) : foldEmail x.email ≠ foldEmail email := by
  have hnone := List.filter_eq_nil_iff.mp (loadFirst_eq_none h) x hx
  simpa only [beq_iff_eq] using hnone

theorem plus_nonneg {a b : Int} (ha : 0 ≤ a) (hb : 0 ≤ b) : 0 ≤ plus a b := by
  have hround {n : Int} (hn : 0 ≤ n) : 0 ≤ Decimal.round53Int n := by
    rw [Decimal.round53Int, if_neg (Int.not_lt.mpr hn)]
    exact Int.natCast_nonneg _
  unfold plus
  split
  · exact Int.add_nonneg ha hb
  · exact hround (Int.add_nonneg (hround ha) (hround hb))

/-- A change of the tallies of some rows that takes none below zero. -/
def Recounted (now : Moment) (s s' : Store) : Prop :=
  ∃ f : Account → Account, s' = { s with accounts := s.accounts.map f } ∧
    ∀ a, f a = a ∨ ∃ t, f a = a.withTally t now ∧
      (0 ≤ a.reviewsCount → 0 ≤ t.reviews) ∧ (0 ≤ a.filesReviewed → 0 ≤ t.files)

theorem recounted_same (now : Moment) (s : Store) : Recounted now s s :=
  ⟨id, by simp, fun _ => .inl rfl⟩

theorem recounted_updateRow (now : Moment) (id : Uuid) (s : Store) {change : Account → Account}
    (t : Account → Tally)
    (hchange : ∀ a, { change a with updatedAt := now } = a.withTally (t a) now)
    (hreviews : ∀ a, 0 ≤ a.reviewsCount → 0 ≤ (t a).reviews)
    (hfiles : ∀ a, 0 ≤ a.filesReviewed → 0 ≤ (t a).files) :
    Recounted now s (s.updateRow now id change).2 := by
  refine ⟨fun a => if a.id == id then { change a with updatedAt := now } else a, rfl, fun a => ?_⟩
  by_cases ha : a.id == id
  · exact .inr ⟨t a, by simp only [ha, ↓reduceIte, hchange], hreviews a, hfiles a⟩
  · exact .inl (by simp [ha])

/-- Counting for an account touches no more than tallies. -/
theorem recounted_run {c : Tally.Change} (hc : c.Fitting) (now : Moment) (id : Uuid) (s : Store) :
    Recounted now s (c.run now id s) := by
  cases c with
  | reserve =>
    simp only [Tally.Change.run, reserveReview]
    split
    · exact recounted_updateRow now id s (fun a => ⟨plus a.reviewsCount 1, a.filesReviewed⟩)
        (fun _ => rfl) (fun _ h => plus_nonneg h (by decide)) fun _ h => h
    · exact recounted_same now s
  | release =>
    exact recounted_updateRow now id s
      (fun a => ⟨max (plus a.reviewsCount (-1)) 0, a.filesReviewed⟩) (fun _ => rfl)
      (fun _ _ => Int.le_max_right _ _) fun _ h => h
  | addFiles count =>
    simp only [Tally.Change.run, addFiles]
    split
    · next s' hs' =>
      split at hs'
      · cases hs'
        exact recounted_updateRow now id s
          (fun a => ⟨a.reviewsCount, plus a.filesReviewed count⟩) (fun _ => rfl) (fun _ h => h)
          fun _ h => plus_nonneg h hc
      · cases hs'
    · exact recounted_same now s
  | reset =>
    exact recounted_updateRow now id s (fun a => ⟨0, a.filesReviewed⟩) (fun _ => rfl)
      (fun _ _ => Int.le_refl _) fun _ h => h

theorem Recounted.ids {now : Moment} (h : Recounted now s s') :
    s'.accounts.map (·.id) = s.accounts.map (·.id) := by
  obtain ⟨f, rfl, hf⟩ := h
  rw [List.map_map]
  refine List.map_congr_left fun a _ => ?_
  rcases hf a with h | ⟨t, h, -⟩ <;> simp [h, Account.withTally]

theorem Step.keyed (h : Step fit s s') (hs : s.Keyed) : s'.Keyed := by
  unfold Keyed at *
  cases h with
  | join _ _ h => exact Keyed.saveAccount hs h
  | write _ _ h => exact Keyed.saveAccount hs h
  | leave id => exact hs.sublist (List.filter_sublist.map _)
  | count now id hc => rwa [(recounted_run hc now id s).ids]
  | keep _ h => rwa [saveReview_accounts h]
  | drop id => exact hs
  | resolve review finding flag => exact hs

end Store

end ReviewDesk
