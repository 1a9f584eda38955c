import Mathlib.Algebra.BigOperators.Fin
import Mathlib.Algebra.Order.BigOperators.Group.Finset
import ReviewDesk.Proofs.Stages

/-!
# Requests side by side

Any number of requests for reviews of one account may be under way, each going by a copy of the
account that may be old, and their steps may come in any order. As long as the numbers have room,
the tally of the account says at every moment which places are taken and which files are counted,
and no more places are taken than the quota allows.
-/
namespace ReviewDesk

/-- How many reviews the profile allows, if there is a bound. -/
def Account.quota (a : Account) : Option Int :=
  if a.isAdmin then none
  else if a.isSpecial then a.usageLimit
  else match a.tier with
    | .free => some Tier.free.reviewsPerMonth
    | .premium => none

/-- An account that is active has another review if that is within the quota. -/
theorem Account.admits_eq (a : Account) (n : Int) :
    a.admits n = (a.isActive && a.quota.all (n < ·)) := by
  have hrole : (Role.user == Role.admin) = false := rfl
  have htier : (Tier.free == Tier.premium) = false := rfl
  unfold admits Store.mayReserve quota isAdmin
  cases a.role <;> cases a.isSpecial <;> cases a.tier <;> simp [hrole, htier]

theorem Account.quota_fits {a : Account} (h : Store.fitsAccount a = true) {most : Int}
    (hmost : a.quota = some most) : Store.fits most = true := by
  simp only [Store.fitsAccount, Bool.and_eq_true] at h
  obtain ⟨⟨⟨-, hlimit⟩, -⟩, -⟩ := h
  unfold quota at hmost
  split at hmost
  · cases hmost
  · split at hmost
    · simpa [hmost] using hlimit
    · split at hmost <;> cases hmost
      decide

namespace Desk

/-- Requests at their stages, and the store that they share. -/
structure Traffic (n : ℕ) where
  store : Store
  stages : Fin n → Stage

namespace Traffic

variable {n : ℕ} (qs : Fin n → Request)

/-- No request has begun. -/
def start (s : Store) : Traffic n := ⟨s, fun _ => .asked⟩

/-- One request goes one step on. -/
def step (x : Traffic n) (move : Fin n × Turn) : Traffic n :=
  let next := (qs move.1).step move.2 (x.stages move.1, x.store)
  ⟨next.2, Function.update x.stages move.1 next.1⟩

/-- The requests take their steps in the order of the moves. -/
def run (x : Traffic n) (moves : List (Fin n × Turn)) : Traffic n := moves.foldl (step qs) x

/-- The requests that have taken a place and not given it back. -/
def holders (x : Traffic n) : Finset (Fin n) := {i | (x.stages i).holds = true}

/-- The requests whose files are counted. -/
def counted (x : Traffic n) : Finset (Fin n) := {i | (x.stages i).isCounted = true}

def placesTaken (x : Traffic n) : ℕ := ∑ i, (x.stages i).places

def filesCounted (x : Traffic n) : ℕ := ∑ i, (qs i).filesCounted (x.stages i)

theorem card_holders (x : Traffic n) : x.holders.card = x.placesTaken :=
  Finset.card_filter _ _

theorem sum_counted (x : Traffic n) :
    ∑ i ∈ x.counted, (qs i).files.length = x.filesCounted qs :=
  Finset.sum_filter _ _

/-- A sum over the requests changes with the one that goes on. -/
theorem sum_update (g : Fin n → Stage → ℕ) (stages : Fin n → Stage) (i : Fin n) (stage : Stage) :
    ∑ j, g j (Function.update stages i stage j) + g i (stages i) =
      ∑ j, g j (stages j) + g i stage := by
  simp only [Function.apply_update g stages i stage]
  rw [Finset.sum_update_of_mem (Finset.mem_univ i),
    Finset.sum_eq_add_sum_sdiff_singleton_of_mem (Finset.mem_univ i) fun j => g j (stages j)]
  omega

/-- The numbers of an account have room for some requests. -/
structure Roomy (row : Account) : Prop where
  fits : Store.fitsAccount row = true
  reviews_nonneg : 0 ≤ row.reviewsCount
  files_nonneg : 0 ≤ row.filesReviewed
  reviews : row.quota = none → row.reviewsCount + n < 2 ^ 63
  files : row.filesReviewed + ∑ i, ((qs i).files.length : ℤ) < 2 ^ 63

/-- The tally of an account is that of the beginning with what the requests have taken and counted
since, and the quota is kept. -/
structure Balanced (row : Account) (x : Traffic n) : Prop where
  stands : x.store.Stands row
    ⟨row.reviewsCount + x.placesTaken, row.filesReviewed + x.filesCounted qs⟩
  quota : ∀ most, row.quota = some most →
    row.reviewsCount + x.placesTaken ≤ max row.reviewsCount most

variable {qs} {row : Account} {x : Traffic n} {i : Fin n}

theorem balanced_start {s : Store} (hs : s.Keyed) (hrow : s.row? row.id = some row) :
    Balanced qs row (start s) := by
  have hplaces : (start s : Traffic n).placesTaken = 0 := by
    simp [placesTaken, start, Stage.places, Stage.holds]
  have hfiles : (start s : Traffic n).filesCounted qs = 0 := by
    simp [filesCounted, start, Request.filesCounted, Stage.isCounted]
  constructor
  · rw [hplaces, hfiles, Nat.cast_zero, add_zero, add_zero]
    exact Store.stands_of_row hs hrow
  · intro most _
    rw [hplaces]
    simp

theorem places_le_one (stage : Stage) : stage.places ≤ 1 := by
  unfold Stage.places
  split <;> omega

theorem placesTaken_le : x.placesTaken ≤ n := by
  have hle := Finset.sum_le_card_nsmul Finset.univ (fun j => (x.stages j).places) 1
    fun j _ => places_le_one (x.stages j)
  rw [Finset.card_univ, Fintype.card_fin, smul_eq_mul, mul_one] at hle
  exact hle

/-- A request without a place leaves one of all. -/
theorem placesTaken_lt (h : (x.stages i).places = 0) : x.placesTaken < n := by
  have hlt : x.placesTaken < ∑ _j : Fin n, 1 := by
    apply Finset.sum_lt_sum
    · intro j _
      exact places_le_one (x.stages j)
    · exact ⟨i, Finset.mem_univ i, by omega⟩
  simpa using hlt

theorem places_le_placesTaken : (x.stages i).places ≤ x.placesTaken := by
  unfold placesTaken
  exact Finset.single_le_sum (f := fun j => (x.stages j).places) (fun _ _ => Nat.zero_le _)
    (Finset.mem_univ i)

/-- A request that has not counted its files leaves them out of the sum. -/
theorem filesCounted_add_le (h : (x.stages i).isCounted = false) :
    x.filesCounted qs + (qs i).files.length ≤ ∑ j, (qs j).files.length := by
  have hnone : (qs i).filesCounted (x.stages i) = 0 := by
    simp [Request.filesCounted, h]
  have hrest : ∑ j ∈ Finset.univ \ {i}, (qs j).filesCounted (x.stages j) ≤
      ∑ j ∈ Finset.univ \ {i}, (qs j).files.length := by
    apply Finset.sum_le_sum
    intro j _
    unfold Request.filesCounted
    split <;> omega
  unfold filesCounted
  rw [Finset.sum_eq_add_sum_sdiff_singleton_of_mem (Finset.mem_univ i) fun j =>
      (qs j).filesCounted (x.stages j),
    Finset.sum_eq_add_sum_sdiff_singleton_of_mem (Finset.mem_univ i) fun j => (qs j).files.length]
  omega

/-- Another place that the row allows still fits. -/
theorem Roomy.reserve_eq (hroom : Roomy qs row) (hfree : (x.stages i).places = 0)
    (hadmits : row.admits (row.reviewsCount + x.placesTaken) = true) :
    Store.plus (row.reviewsCount + x.placesTaken) 1 = row.reviewsCount + x.placesTaken + 1 := by
  have hnonneg := hroom.reviews_nonneg
  have hnext : row.reviewsCount + x.placesTaken + 1 < 2 ^ 63 := by
    cases hquota : row.quota with
    | none =>
      have hn := hroom.reviews hquota
      have hlt := placesTaken_lt hfree
      omega
    | some most =>
      have hmost := (Store.fits_iff most).mp (Account.quota_fits hroom.fits hquota)
      rw [Account.admits_eq, hquota] at hadmits
      simp only [Option.all_some, Bool.and_eq_true, decide_eq_true_eq] at hadmits
      omega
  apply Store.plus_eq_add <;> rw [Store.fits_iff] <;> omega

theorem Roomy.count_eq (hroom : Roomy qs row) (hnone : (x.stages i).isCounted = false) :
    Store.plus (row.filesReviewed + x.filesCounted qs) (qs i).files.length =
      row.filesReviewed + x.filesCounted qs + (qs i).files.length := by
  have hnonneg := hroom.files_nonneg
  have hsum := hroom.files
  have hle : x.filesCounted qs + (qs i).files.length ≤ ∑ j, (qs j).files.length :=
    filesCounted_add_le hnone
  have hcast : ∑ j, ((qs j).files.length : ℤ) = (∑ j, (qs j).files.length : ℕ) := by
    push_cast
    rfl
  apply Store.plus_eq_add <;> rw [Store.fits_iff] <;> omega

namespace Balanced

/-- The reviews that are counted fit. -/
theorem reviews_lt (h : Balanced qs row x) (hroom : Roomy qs row) :
    row.reviewsCount + x.placesTaken < 2 ^ 63 := by
  cases hquota : row.quota with
  | none =>
    have hn := hroom.reviews hquota
    have hle := placesTaken_le (x := x)
    omega
  | some most =>
    have hmost := (Store.fits_iff most).mp (Account.quota_fits hroom.fits hquota)
    have hfits := hroom.fits
    simp only [Store.fitsAccount, Bool.and_eq_true, Store.fits_iff] at hfits
    have hle := h.quota most hquota
    omega

/-- A place that is given back is one that was counted, so the bound at zero is not met. -/
theorem release_eq (h : Balanced qs row x) (hroom : Roomy qs row)
    (hplace : 0 < (x.stages i).places) :
    max (Store.plus (row.reviewsCount + x.placesTaken) (-1)) 0 =
      row.reviewsCount + x.placesTaken - 1 := by
  have hnonneg := hroom.reviews_nonneg
  have hlt := h.reviews_lt hroom
  have hle := places_le_placesTaken (x := x) (i := i)
  have hplus : Store.plus (row.reviewsCount + x.placesTaken) (-1) =
      row.reviewsCount + x.placesTaken + -1 := by
    apply Store.plus_eq_add <;> rw [Store.fits_iff] <;> omega
  omega

/-- The balance is kept by every step of every request. -/
theorem step (h : Balanced qs row x) (hroom : Roomy qs row)
    (hids : ∀ i, (qs i).caller.id = row.id) (move : Fin n × Turn) :
    Balanced qs row (x.step qs move) := by
  obtain ⟨i, turn⟩ := move
  obtain ⟨t', hstands, hreviews, hfiles, htaken⟩ := Request.step_follows turn h.stands (hids i)
    hroom.reserve_eq (h.release_eq hroom) hroom.count_eq
  have hplaces : (x.step qs (i, turn)).placesTaken + (x.stages i).places =
      x.placesTaken + ((qs i).step turn (x.stages i, x.store)).1.places :=
    sum_update (fun _ => Stage.places) x.stages i _
  have hcounted : (x.step qs (i, turn)).filesCounted qs + (qs i).filesCounted (x.stages i) =
      x.filesCounted qs +
        (qs i).filesCounted ((qs i).step turn (x.stages i, x.store)).1 :=
    sum_update (fun j => (qs j).filesCounted) x.stages i _
  constructor
  · have ht : t' = ⟨row.reviewsCount + (x.step qs (i, turn)).placesTaken,
        row.filesReviewed + (x.step qs (i, turn)).filesCounted qs⟩ := by
      obtain ⟨reviews, files⟩ := t'
      simp only [Tally.mk.injEq] at hreviews hfiles ⊢
      omega
    rw [← ht]
    exact hstands
  · intro most hmost
    have hle := h.quota most hmost
    have hone := places_le_one ((qs i).step turn (x.stages i, x.store)).1
    -- Only a step that takes a place comes nearer to the quota, and the row allowed that one.
    by_cases hmore : (x.stages i).places < ((qs i).step turn (x.stages i, x.store)).1.places
    · have hadmits := htaken hmore
      rw [Account.admits_eq, hmost] at hadmits
      simp only [Option.all_some, Bool.and_eq_true, decide_eq_true_eq] at hadmits
      omega
    · omega

/-- The balance is kept in every order of steps. -/
theorem run (h : Balanced qs row x) (hroom : Roomy qs row)
    (hids : ∀ i, (qs i).caller.id = row.id) (moves : List (Fin n × Turn)) :
    Balanced qs row (x.run qs moves) := by
  induction moves generalizing x with
  | nil => exact h
  | cons move rest ih => exact ih (h.step hroom hids move)

end Balanced

/-- At every moment of every order of steps, the reviews that are counted are those of the
beginning and the places that are taken, the files are those of the beginning and those of the
requests that have counted theirs, a place that is given back is taken off in full, and the quota
is kept. -/
theorem tally_run (qs : Fin n → Request) {s : Store} {row : Account} (hs : s.Keyed)
    (hrow : s.getAccount row.id = .ok (some row)) (hfits : Store.fitsAccount row = true)
    (hids : ∀ i, (qs i).caller.id = row.id)
    (hreviews : row.quota = none → row.reviewsCount + n < 2 ^ 63)
    (hfiles : row.filesReviewed + ∑ i, ((qs i).files.length : ℤ) < 2 ^ 63)
    (moves : List (Fin n × Turn)) :
    ∃ t, ((start s).run qs moves).store.tally row.id = some t ∧
      t.reviews = row.reviewsCount + ((start s).run qs moves).holders.card ∧
      t.files = row.filesReviewed +
        ∑ i ∈ ((start s).run qs moves).counted, ((qs i).files.length : ℤ) ∧
      (∀ i r fault, ((start s).run qs moves).stages i = .broken r fault →
        max (Store.plus t.reviews (-1)) 0 = t.reviews - 1) ∧
      ∀ most, row.quota = some most → t.reviews ≤ max row.reviewsCount most := by
  obtain ⟨hkept, ⟨-, hnonneg⟩, -, hfilesNonneg⟩ := Store.getAccount_eq_ok_iff.mp hrow
  have hroom : Roomy qs row := ⟨hfits, hnonneg, hfilesNonneg, hreviews, hfiles⟩
  have hbalanced := (balanced_start hs hkept).run hroom hids moves
  refine ⟨_, hbalanced.stands.tally_eq, ?_, ?_, ?_, ?_⟩
  · rw [card_holders]
  · rw [← sum_counted]
    push_cast
    rfl
  · intro i r fault hstage
    exact hbalanced.release_eq hroom (i := i) (by rw [hstage]; exact Nat.one_pos)
  · exact hbalanced.quota

/-- A request of an account for a review of one file. -/
def smallRequest (caller : Account) : Request := ⟨caller, "Small review", none, [("a.txt", "x")]⟩

/-- Two requests are let through by their copies, and both come for a place. -/
def race : List (Fin 2 × Turn) :=
  let turn : Turn := ⟨⟨1, some 0⟩, Uuid.ofNat 2, .error (.unpriceable, [])⟩
  [(0, turn), (1, turn), (0, turn), (1, turn)]

/-- An account with one review left. -/
def lastPlace : Account where
  id := Uuid.ofNat 0x11111111111141118111111111111111
  username := "ada"
  email := "ada@example.com"
  reviewsCount := 9
  createdAt := ⟨0, some 0⟩
  updatedAt := ⟨0, some 0⟩

/-- Of two requests for the last place one has it, and the quota is kept. -/
theorem tally_run_lastPlace :
    ∃ t, ((start ⟨[lastPlace], []⟩).run (fun _ => smallRequest lastPlace) race).store.tally
        lastPlace.id = some t ∧
      t.reviews = 9 + 1 ∧ t.files = 0 ∧ t.reviews ≤ max 9 10 := by
  obtain ⟨t, htally, hreviews, hfiles, -, hquota⟩ :=
    tally_run (fun _ : Fin 2 => smallRequest lastPlace) (s := ⟨[lastPlace], []⟩)
      (by simp [Store.Keyed]) (by rfl) (by decide) (fun _ => rfl) (fun h => by cases h)
      (by decide) race
  have hholders : ((start ⟨[lastPlace], []⟩).run (fun _ => smallRequest lastPlace)
      race).holders.card = 1 := by decide +kernel
  have hcounted : ((start ⟨[lastPlace], []⟩).run (fun _ => smallRequest lastPlace)
      race).counted = ∅ := by decide +kernel
  rw [hholders] at hreviews
  rw [hcounted] at hfiles
  exact ⟨t, htally, hreviews, hfiles, hquota 10 rfl⟩

/-- An account without a quota whose reviews are at the end of their room. -/
def fullCounter : Account :=
  { lastPlace with tier := .premium, reviewsCount := 2 ^ 63 - 1 }

/-- Beyond the room the reviews no longer follow the places: two are taken, and one is counted. -/
theorem tally_run_fullCounter :
    ((start ⟨[fullCounter], []⟩).run (fun _ => smallRequest fullCounter) race).store.tally
        fullCounter.id = some ⟨2 ^ 63, 0⟩ ∧
      ((start ⟨[fullCounter], []⟩).run (fun _ => smallRequest fullCounter) race).holders.card = 2 ∧
      fullCounter.reviewsCount + 2 ≠ 2 ^ 63 := by
  refine ⟨?_, ?_, ?_⟩ <;> decide +kernel

end Traffic

end Desk

end ReviewDesk
