import ReviewDesk.Proofs.Doubles
import ReviewDesk.Proofs.ReviewRules

/-!
# A review is saved whole or not at all

A review that can be saved is found under its identifier as it was saved, whatever stood there
before, and nothing else in the store changes. One whose owner is missing or whose findings take the
identifiers of others is refused, and the store stays as it is.
-/
namespace ReviewDesk

/-- Two reviews have the same in every field. Costs are compared as numbers. -/
structure Review.Agrees (q r : Review) : Prop where
  fields : { q with costUsd := r.costUsd } = r
  cost : (q.costUsd == r.costUsd) = true

namespace Store

variable {s s' : Store} {r : Review}

/-- All whole numbers of a review and of its findings can be stored. -/
def FitsWhole (r : Review) : Prop :=
  fitsReview r = true ∧ ∀ f ∈ r.findings, fitsFinding f = true

/-- The owner of a review is there, and its findings have identifiers of their own. -/
structure Accepts (s : Store) (r : Review) : Prop where
  owner : ∃ a ∈ s.accounts, a.id = r.reviewerId
  distinct : (r.findings.map (·.id)).Nodup
  unused : ∀ q ∈ s.reviews, q.id ≠ r.id → ∀ g ∈ q.findings, ∀ f ∈ r.findings, f.id ≠ g.id

/-- What a store is after a review was saved in it. -/
structure Saved (r : Review) (s s' : Store) : Prop where
  found : ∃ q, s'.getReview r.id = some q ∧ q.Agrees r
  accounts : s'.accounts = s.accounts
  others : s'.reviews.filter (·.id != r.id) = s.reviews.filter (·.id != r.id)
  ids : (s.reviews.map (·.id)).Nodup → (s'.reviews.map (·.id)).Nodup

/-- A cost that is a number is kept as a number that equals it. -/
theorem keptCost_beq {cost : Option Float} (h : ∀ x ∈ cost, x.isNaN = false) :
    (keptCost cost == cost) = true := by
  cases cost with
  | none => rfl
  | some x =>
    have hx := h x rfl
    have hkept : keptCost (some x) = some (if x == 0.0 then 0.0 else x) := by
      rw [keptCost, Option.bind_some, hx, if_neg Bool.false_ne_true]
    rw [hkept]
    by_cases hzero : (x == 0.0) = true
    · rw [if_pos hzero]
      exact Double.zero_beq hzero
    · rw [if_neg hzero]
      exact Double.beq_self hx

theorem agrees_kept (hvalid : r.Valid) (hcost : ∀ x ∈ r.costUsd, x.isNaN = false) :
    (kept r).Agrees r := by
  rw [kept_of_valid hvalid]
  exact ⟨rfl, keptCost_beq hcost⟩

theorem mem_findingIds {x except : Uuid} :
    x ∈ s.findingIds except ↔ ∃ q ∈ s.reviews, q.id ≠ except ∧ ∃ g ∈ q.findings, g.id = x := by
  simp [findingIds, and_assoc]

/-- Which reviews are saved. -/
theorem saveReview_ok_iff_accepts (hfits : FitsWhole r) :
    s.saveReview r = .ok { s with reviews := putReview (kept r) s.reviews } ↔ s.Accepts r := by
  rw [saveReview_eq_ok_iff, checkFindings_eq_ok_iff, List.any_eq_true]
  constructor
  · rintro ⟨-, ⟨a, ha, hid⟩, ⟨-, hdistinct, hnew⟩, -⟩
    exact ⟨⟨a, ha, eq_of_beq hid⟩, hdistinct, fun q hq hne g hg f hf he =>
      hnew f hf (mem_findingIds.mpr ⟨q, hq, hne, g, hg, he.symm⟩)⟩
  · rintro ⟨⟨a, ha, hid⟩, hdistinct, hunused⟩
    refine ⟨hfits.1, ⟨a, ha, beq_iff_eq.mpr hid⟩, ⟨hfits.2, hdistinct, fun f hf hmem => ?_⟩, rfl⟩
    obtain ⟨q, hq, hne, g, hg, he⟩ := mem_findingIds.mp hmem
    exact hunused q hq hne g hg f hf he.symm

theorem saved_of_ok (hvalid : r.Valid) (hcost : ∀ x ∈ r.costUsd, x.isNaN = false)
    (h : s.saveReview r = .ok s') : Saved r s s' where
  found := ⟨kept r, by rw [getReview_saveReview h, if_pos rfl], agrees_kept hvalid hcost⟩
  accounts := saveReview_accounts h
  others := by
    obtain ⟨-, -, -, rfl⟩ := saveReview_eq_ok_iff.mp h
    exact filter_putReview (by simp) fun q _ hq => by simp [hq]
  ids hids := by
    obtain ⟨-, -, -, rfl⟩ := saveReview_eq_ok_iff.mp h
    exact putReview_nodup hids

end Store

namespace Desk

open Store (Accepts FitsWhole Saved)

variable {σ : Type}

/-- A review with a finding, a score, moments at an offset and a cost. The number of its finding is
given by `finding`. -/
def fullReview (finding : Nat) : Review where
  id := Uuid.ofNat 2
  reviewerId := Uuid.ofNat 1
  title := "Größe ≤ 10"
  status := .completed
  findings := [{
    id := Uuid.ofNat finding
    title := "Unused \"naïve\" loop"
    severity := .high
    category := .bug
    line := some 9223372036854775807
    impact := some 7
    metrics := ["κ < 1", "tab\t\\", "😀"] }]
  score := some ⟨88, ⟨90, 100, 92, 80, 70⟩, "A-"⟩
  startedAt := some ⟨1700000000123456, some (-12600)⟩
  completedAt := some ⟨1700000001000000, none⟩
  costUsd := some 0.25
  createdAt := ⟨1, some 19800⟩

/-- A desk at which a review stands under the identifier, and another with finding 4. -/
def busyDesk : Desk Unit where
  store := {
    accounts := [{
      id := Uuid.ofNat 1
      username := "ada"
      email := "ada@example.com"
      createdAt := ⟨0, some 0⟩
      updatedAt := ⟨0, some 0⟩ }]
    reviews := [{ fullReview 3 with title := "Old", score := none },
      { fullReview 4 with id := Uuid.ofNat 5 }] }
  now := ⟨2, some 0⟩
  ids k := Uuid.ofNat (k + 6)
  model := ()

theorem valid_fullReview (finding : Nat) : (fullReview finding).Valid where
  title := by
    dsimp only [fullReview]
    decide +kernel
  findings f hf := by
    obtain rfl := List.mem_singleton.mp hf
    constructor
    · dsimp only
      decide +kernel
    · dsimp only
      decide +kernel
    · rintro n ⟨⟩
      decide
  score s hs := by
    cases hs
    constructor <;> decide
  startedAt m hm := by
    cases hm
    exact ⟨by decide, fun offset h => by cases h; decide⟩
  completedAt m hm := by
    cases hm
    exact ⟨by decide, fun offset h => by cases h⟩
  createdAt := by
    dsimp only [fullReview]
    exact ⟨by decide, fun offset h => by cases h; decide⟩

theorem fitsWhole_fullReview (finding : Nat) : FitsWhole (fullReview finding) := by
  constructor
  · dsimp only [fullReview, Store.fitsReview]
    decide
  · intro f hf
    obtain rfl := List.mem_singleton.mp hf
    dsimp only [Store.fitsFinding]
    decide

end Desk

end ReviewDesk
