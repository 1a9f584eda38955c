import Mathlib.Data.List.Nodup
import ReviewDesk.Proofs.AccountColumns
import ReviewDesk.Proofs.Checking
import ReviewDesk.Proofs.Columns
import ReviewDesk.Store.Accounts

/-!
# Rows of the store

The store is read through `row?`, the row of an account, and through its list of reviews. Operations
on accounts leave the reviews alone and the other way round; a change in place keeps all rows but
one, and a review that is new goes to the end.
-/
namespace ReviewDesk.Store

variable {s : Store} {id : Uuid}

/-- The row of an account. -/
def row? (id : Uuid) (s : Store) : Option Account := s.accounts.find? (·.id == id)

/-- No two rows of accounts have the same identifier. -/
def Keyed (s : Store) : Prop := (s.accounts.map (·.id)).Nodup

theorem row?_id {row : Account} (h : s.row? id = some row) : row.id = id := by
  simpa using List.find?_some h

theorem row?_mem {row : Account} (h : s.row? id = some row) : row ∈ s.accounts :=
  List.mem_of_find?_eq_some h

theorem row?_of_mem (hs : s.Keyed) {row : Account} (h : row ∈ s.accounts) :
    s.row? row.id = some row := by
  obtain ⟨accounts, reviews⟩ := s
  simp only [Keyed, row?] at *
  induction accounts with
  | nil => simp at h
  | cons a rest ih =>
    rw [List.map_cons, List.nodup_cons] at hs
    rcases List.mem_cons.mp h with rfl | hr
    · simp
    · have hne : a.id ≠ row.id := fun he => hs.1 (he ▸ List.mem_map_of_mem hr)
      simpa [hne] using ih hs.2 hr

/-- There is at most one row to look at. -/
theorem any_row (hs : s.Keyed) (id : Uuid) (p : Account → Bool) :
    (s.accounts.any fun a => a.id == id && p a) = (s.row? id).any p := by
  rw [Bool.eq_iff_iff]
  constructor
  · intro h
    obtain ⟨a, ha, hp⟩ := List.any_eq_true.mp h
    simp only [Bool.and_eq_true, beq_iff_eq] at hp
    have hrow := row?_of_mem hs ha
    rw [hp.1] at hrow
    simpa [hrow] using hp.2
  · intro h
    cases hrow : s.row? id with
    | none => simp [hrow] at h
    | some row =>
      have hp : p row = true := by simpa [hrow] using h
      exact List.any_eq_true.mpr ⟨row, row?_mem hrow, by simp [row?_id hrow, hp]⟩

theorem getAccount_eq (id : Uuid) (s : Store) :
    s.getAccount id = match s.row? id with
      | none => .ok none
      | some row => (loadRow row).map some := by
  unfold getAccount row?
  rw [← List.head?_filter]
  cases s.accounts.filter (·.id == id) <;> rfl

theorem checkCounter_eq_good {n k : Int} :
    checkCounter n = .good k ↔ (fits n = true ∧ 0 ≤ n) ∧ n = k := by
  unfold checkCounter Field.checkAtLeast
  by_cases hfits : fits n = true
  · by_cases hneg : n < 0
    · simp [hfits, hneg, Int.not_le.mpr hneg]
    · simp [hfits, hneg, Int.not_lt.mp hneg]
  · simp [hfits]

/-- What is loaded is the row itself: loading only checks the counters. -/
theorem loadRow_eq_ok_iff {row a : Account} :
    loadRow row = .ok a ↔
      (fits row.reviewsCount = true ∧ 0 ≤ row.reviewsCount) ∧
        (fits row.filesReviewed = true ∧ 0 ≤ row.filesReviewed) ∧ row = a := by
  unfold loadRow
  dsimp only
  split
  · next b hgood =>
    simp only [Checked.seq_eq_good, Checked.map_eq_good, Checked.under_eq_good,
      checkCounter_eq_good] at hgood
    obtain ⟨_, _, ⟨_, ⟨hr, rfl⟩, rfl⟩, ⟨hf, rfl⟩, rfl⟩ := hgood
    rw [Except.ok.injEq]
    exact ⟨fun h => ⟨hr, hf, h⟩, fun h => h.2.2⟩
  · next problems hbad =>
    constructor
    · intro h
      cases h
    · rintro ⟨hr, hf, -⟩
      rw [checkCounter_eq_good.mpr ⟨hr, rfl⟩, checkCounter_eq_good.mpr ⟨hf, rfl⟩] at hbad
      cases hbad

/-- An account that is found has its row, with counters in their bounds. -/
theorem getAccount_eq_ok_iff {row : Account} :
    s.getAccount id = .ok (some row) ↔
      s.row? id = some row ∧ (fits row.reviewsCount = true ∧ 0 ≤ row.reviewsCount) ∧
        fits row.filesReviewed = true ∧ 0 ≤ row.filesReviewed := by
  rw [getAccount_eq]
  cases hrow : s.row? id with
  | none => simp
  | some kept =>
    have hmap : (loadRow kept).map some = .ok (some row) ↔ loadRow kept = .ok row := by
      cases loadRow kept <;> simp [Except.map]
    dsimp only
    rw [hmap, loadRow_eq_ok_iff, Option.some.injEq]
    constructor
    · rintro ⟨hr, hf, rfl⟩
      exact ⟨rfl, hr, hf⟩
    · rintro ⟨rfl, hr, hf⟩
      exact ⟨hr, hf, rfl⟩

/-- What is found is one of the rows that were looked at. -/
theorem mem_of_loadFirst {rows : List Account} {a : Account}
    (h : loadFirst rows = .ok (some a)) : a ∈ rows ∧ loadRow a = .ok a := by
  cases rows with
  | nil => cases h
  | cons row rest =>
    have hload : loadRow row = .ok a := by
      rw [loadFirst] at h
      cases hl : loadRow row <;> simp_all [Except.map]
    obtain ⟨-, -, rfl⟩ := loadRow_eq_ok_iff.mp hload
    exact ⟨List.mem_cons_self, hload⟩

/-- However an account is looked for, what is found is what its identifier gives. -/
theorem getAccount_of_loadFirst (hs : s.Keyed) {p : Account → Bool} {a : Account}
    (h : loadFirst (s.accounts.filter p) = .ok (some a)) : s.getAccount a.id = .ok (some a) := by
  obtain ⟨hmem, hload⟩ := mem_of_loadFirst h
  obtain ⟨hr, hf, -⟩ := loadRow_eq_ok_iff.mp hload
  exact getAccount_eq_ok_iff.mpr ⟨row?_of_mem hs (List.mem_filter.mp hmem).1, hr, hf⟩

/-- A change in place is seen in the row that it is for. -/
theorem row?_updateRow (now : Moment) (s : Store) {change : Account → Account}
    (hid : ∀ a, (change a).id = a.id) :
    (s.updateRow now id change).2.row? id =
      (s.row? id).map fun a => { change a with updatedAt := now } := by
  unfold updateRow row?
  rw [List.find?_map]
  have hp : (fun a : Account => a.id == id) ∘
      (fun a => if a.id == id then { change a with updatedAt := now } else a) =
      fun a => a.id == id := by
    funext a
    simp only [Function.comp_apply]
    split <;> simp_all
  rw [hp]
  cases hrow : s.accounts.find? (·.id == id) with
  | none => rfl
  | some row =>
    have hrid := List.find?_some hrow
    simp_all

theorem updateRow_ids (now : Moment) (s : Store) {change : Account → Account}
    (hid : ∀ a, (change a).id = a.id) :
    (s.updateRow now id change).2.accounts.map (·.id) = s.accounts.map (·.id) := by
  simp only [updateRow, List.map_map]
  apply List.map_congr_left
  intro a _
  simp only [Function.comp_apply]
  split <;> simp [hid]

theorem Keyed.updateRow (hs : s.Keyed) (now : Moment) {change : Account → Account}
    (hid : ∀ a, (change a).id = a.id) : (s.updateRow now id change).2.Keyed := by
  unfold Keyed
  rw [updateRow_ids now s hid]
  exact hs

theorem reserveReview_reviews (now : Moment) (id : Uuid) (s : Store) :
    (s.reserveReview now id).2.reviews = s.reviews := by
  unfold reserveReview
  split <;> rfl

theorem find_putRow (a : Account) (id : Uuid) (rows : List Account) :
    (putRow a rows).find? (·.id == id) =
      if a.id = id then some a else rows.find? (·.id == id) := by
  induction rows with
  | nil => by_cases h : a.id = id <;> simp [putRow, h]
  | cons b rest ih =>
    by_cases hb : b.id = a.id
    · by_cases h : a.id = id <;> simp [putRow, hb, h]
    · by_cases h : a.id = id
      · have hbi : b.id ≠ id := fun he => hb (he.trans h.symm)
        simp [putRow, h, hbi, ih]
      · simp [putRow, hb, h, ih, List.find?_cons]

theorem putRow_ids_subset (a : Account) (rows : List Account) :
    ∀ id ∈ (putRow a rows).map (·.id), id = a.id ∨ id ∈ rows.map (·.id) := by
  induction rows with
  | nil => simp [putRow]
  | cons b rest ih =>
    intro id hid
    by_cases hb : b.id = a.id
    · simp only [putRow, hb, BEq.rfl, ↓reduceIte, List.map_cons, List.mem_cons] at hid
      rcases hid with rfl | hid
      · exact .inl rfl
      · exact .inr (List.mem_cons_of_mem _ hid)
    · simp only [putRow, beq_iff_eq, hb, ↓reduceIte, List.map_cons, List.mem_cons] at hid ⊢
      rcases hid with rfl | hid
      · exact .inr (.inl rfl)
      · rcases ih id hid with rfl | hid
        · exact .inl rfl
        · exact .inr (.inr hid)

theorem putRow_nodup (a : Account) {rows : List Account} (h : (rows.map (·.id)).Nodup) :
    ((putRow a rows).map (·.id)).Nodup := by
  induction rows with
  | nil => simp [putRow]
  | cons b rest ih =>
    rw [List.map_cons, List.nodup_cons] at h
    by_cases hb : b.id = a.id
    · simp only [putRow, hb, BEq.rfl, ↓reduceIte, List.map_cons, List.nodup_cons]
      exact ⟨hb ▸ h.1, h.2⟩
    · simp only [putRow, beq_iff_eq, hb, ↓reduceIte, List.map_cons, List.nodup_cons]
      refine ⟨?_, ih h.2⟩
      intro hmem
      rcases putRow_ids_subset a rest b.id hmem with he | hmem
      · exact hb he
      · exact h.1 hmem

theorem saveAccount_eq_ok {now : Moment} {a row : Account} {s' : Store}
    (h : s.saveAccount now a = .ok (row, s')) :
    row = { a with updatedAt := now } ∧ s' = { s with accounts := putRow row s.accounts } := by
  simp only [saveAccount, keptAccount_eq] at h
  split at h
  · cases h
  · split at h <;> cases h
    exact ⟨rfl, rfl⟩

theorem row?_saveAccount {now : Moment} {a row : Account} {s' : Store}
    (h : s.saveAccount now a = .ok (row, s')) (id : Uuid) :
    s'.row? id = if a.id = id then some { a with updatedAt := now } else s.row? id := by
  obtain ⟨rfl, rfl⟩ := saveAccount_eq_ok h
  exact find_putRow _ id s.accounts

theorem all_cast_iff (p : Int → Bool) (o : Option Nat) :
    o.all (p ·) = true ↔ ∀ n ∈ o, p n = true := by
  cases o <;> simp

theorem fitsFinding_iff (f : Finding) :
    fitsFinding f = true ↔
      (∀ n ∈ f.line, fits n = true) ∧ ∀ n ∈ f.endLine, fits n = true := by
  rw [fitsFinding, Bool.and_eq_true, all_cast_iff, all_cast_iff]

theorem Keyed.saveAccount {now : Moment} {a row : Account} {s' : Store} (hs : s.Keyed)
    (h : s.saveAccount now a = .ok (row, s')) : s'.Keyed := by
  obtain ⟨-, rfl⟩ := saveAccount_eq_ok h
  exact putRow_nodup row hs

/-- The findings of a review can be kept if their numbers fit and their identifiers are new. -/
theorem checkFindings_eq_ok_iff (taken : List Uuid) (fs : List Finding) :
    checkFindings taken fs = .ok () ↔
      (∀ f ∈ fs, fitsFinding f = true) ∧ (fs.map (·.id)).Nodup ∧ ∀ f ∈ fs, f.id ∉ taken := by
  induction fs generalizing taken with
  | nil => simp [checkFindings]
  | cons f rest ih =>
    by_cases hf : fitsFinding f
    · by_cases ht : f.id ∈ taken
      · simp [checkFindings, hf, ht]
      · have hstep : checkFindings taken (f :: rest) = checkFindings (f.id :: taken) rest := by
          simp [checkFindings, hf, ht]
        have hnew : f.id ∉ rest.map (·.id) ↔ ∀ g ∈ rest, g.id ≠ f.id := by simp
        rw [hstep, ih, List.map_cons, List.nodup_cons, hnew]
        simp only [List.mem_cons, not_or, forall_and, forall_eq_or_imp]
        tauto
    · simp [checkFindings, hf]

/-- When a review is kept, and what the store is then. -/
theorem saveReview_eq_ok_iff {r : Review} {s' : Store} :
    s.saveReview r = .ok s' ↔
      fitsReview r = true ∧ (s.accounts.any (·.id == r.reviewerId)) = true ∧
        checkFindings (s.findingIds r.id) r.findings = .ok () ∧
        s' = { s with reviews := putReview (kept r) s.reviews } := by
  unfold saveReview
  by_cases hr : fitsReview r
  · by_cases ho : s.accounts.any (·.id == r.reviewerId)
    · cases hc : checkFindings (s.findingIds r.id) r.findings <;> simp [hr, ho, eq_comm]
    · simp [hr, ho]
  · simp [hr]

theorem saveReview_accounts {r : Review} {s' : Store} (h : s.saveReview r = .ok s') :
    s'.accounts = s.accounts := by
  obtain ⟨-, -, -, rfl⟩ := saveReview_eq_ok_iff.mp h
  rfl

theorem putReview_new {r : Review} {rs : List Review} (h : ∀ q ∈ rs, q.id ≠ r.id) :
    putReview r rs = rs ++ [r] := by
  induction rs with
  | nil => rfl
  | cons q rest ih =>
    have hq : q.id ≠ r.id := h q (by simp)
    simp [putReview, hq, ih fun p hp => h p (by simp [hp])]

/-- A review that is saved again stays where it is. -/
theorem putReview_last {r q : Review} {rs : List Review} (h : ∀ p ∈ rs, p.id ≠ r.id)
    (hq : q.id = r.id) : putReview r (rs ++ [q]) = rs ++ [r] := by
  induction rs with
  | nil => simp [putReview, hq]
  | cons p rest ih =>
    have hp : p.id ≠ r.id := h p (by simp)
    simp [putReview, hp, ih fun p hp => h p (by simp [hp])]

/-- A review that is put is found under its identifier, and the others as before. -/
theorem find_putReview (r : Review) (id : Uuid) (rs : List Review) :
    (putReview r rs).find? (·.id == id) =
      if r.id = id then some r else rs.find? (·.id == id) := by
  induction rs with
  | nil => by_cases h : r.id = id <;> simp [putReview, h]
  | cons q rest ih =>
    by_cases hq : q.id = r.id
    · by_cases h : r.id = id <;> simp [putReview, hq, h]
    · by_cases h : r.id = id
      · have hqi : q.id ≠ id := fun he => hq (he.trans h.symm)
        simp [putReview, h, hqi, ih]
      · simp [putReview, hq, h, ih, List.find?_cons]

/-- A review that takes the place of reviews that do not count leaves the others. -/
theorem filter_putReview {p : Review → Bool} {r : Review} (hr : p r = false) {rs : List Review}
    (hrs : ∀ q ∈ rs, q.id = r.id → p q = false) : (putReview r rs).filter p = rs.filter p := by
  induction rs with
  | nil => simp [putReview, hr]
  | cons q rest ih =>
    have hrest := ih fun x hx => hrs x (List.mem_cons_of_mem _ hx)
    by_cases hq : q.id = r.id
    · simp [putReview, hq, hr, hrs q List.mem_cons_self hq]
    · simp [putReview, hq, List.filter_cons, hrest]

theorem getReview_saveReview {r : Review} {s' : Store} (h : s.saveReview r = .ok s') (id : Uuid) :
    s'.getReview id = if r.id = id then some (kept r) else s.getReview id := by
  obtain ⟨-, -, -, rfl⟩ := saveReview_eq_ok_iff.mp h
  have hfind := find_putReview (kept r) id s.reviews
  rwa [kept_id] at hfind

theorem getReview_deleteReview (id : Uuid) (s : Store) : (s.deleteReview id).getReview id = none := by
  simp [getReview, deleteReview]

end ReviewDesk.Store
