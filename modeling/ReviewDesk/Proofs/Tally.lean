import Mathlib.Algebra.Group.Int.Defs
import ReviewDesk.Proofs.Rows

/-!
# What is counted for an account

Two numbers of a row are changed in place: the reviews and the files of the account. `Tally` holds
the two, and `Tally.Change` the ways in which the store changes them. The statement `Stands` says
what the store holds of one account: its profile as it was, and a tally. Every change takes a tally
to another by plain arithmetic, and nothing else of the row is touched.
-/
namespace ReviewDesk

/-- The reviews that are counted for an account, and the files in them. -/
structure Tally where
  reviews : Int
  files : Int
  deriving Repr, DecidableEq

namespace Account

def tally (a : Account) : Tally := ⟨a.reviewsCount, a.filesReviewed⟩

/-- The account with another tally, as of some moment. -/
def withTally (t : Tally) (m : Moment) (a : Account) : Account :=
  { a with reviewsCount := t.reviews, filesReviewed := t.files, updatedAt := m }

/-- Whether an account with this profile may have another review when it has `n`. -/
def admits (a : Account) (n : Int) : Bool := Store.mayReserve { a with reviewsCount := n }

@[simp] theorem tally_withTally (t : Tally) (m : Moment) (a : Account) :
    (a.withTally t m).tally = t := rfl

@[simp] theorem admits_withTally (t : Tally) (m : Moment) (a : Account) :
    (a.withTally t m).admits = a.admits := rfl

end Account

namespace Tally

/-- A change of what is counted for an account. -/
inductive Change where
  | reserve
  | release
  | addFiles (count : Int)
  | reset
  deriving Repr, DecidableEq

namespace Change

/-- The tally after a change; `admits` says whether a review may be added to some. -/
def apply (admits : Int → Bool) (t : Tally) : Change → Tally
  | reserve => if admits t.reviews then { t with reviews := Store.plus t.reviews 1 } else t
  | release => { t with reviews := max (Store.plus t.reviews (-1)) 0 }
  | addFiles count => if Store.fits count then { t with files := Store.plus t.files count } else t
  | reset => { t with reviews := 0 }

/-- The store after a change for an account. -/
def run (now : Moment) (id : Uuid) (s : Store) : Change → Store
  | reserve => (s.reserveReview now id).2
  | release => s.releaseReview now id
  | addFiles count =>
    match s.addFiles now id count with
    | .ok s' => s'
    | .error _ => s
  | reset => (s.resetReviews now id).2

/-- The tally after some changes in a row. -/
def applyAll (admits : Int → Bool) (t : Tally) (cs : List (Moment × Change)) : Tally :=
  cs.foldl (fun t c => c.2.apply admits t) t

/-- The store after some changes in a row, each at its moment. -/
def runAll (id : Uuid) (s : Store) (cs : List (Moment × Change)) : Store :=
  cs.foldl (fun s c => c.2.run c.1 id s) s

theorem applyAll_append (admits : Int → Bool) (t : Tally) (cs cs' : List (Moment × Change)) :
    applyAll admits t (cs ++ cs') = applyAll admits (applyAll admits t cs) cs' :=
  List.foldl_append

end Change

end Tally

namespace Store

variable {s s' : Store} {row : Account} {t : Tally}

theorem plus_eq_add {a b : Int} (ha : fits a = true) (hb : fits b = true)
    (hab : fits (a + b) = true) : plus a b = a + b := by
  simp [plus, ha, hb, hab]

theorem fits_iff (n : Int) : fits n = true ↔ -2 ^ 63 ≤ n ∧ n < 2 ^ 63 := by
  simp [fits]

/-- What is counted for an account that is there. -/
def tally (id : Uuid) (s : Store) : Option Tally := (s.row? id).map Account.tally

/-- The account of a row is kept with its profile as it was, and `t` is counted for it. -/
def Stands (s : Store) (row : Account) (t : Tally) : Prop :=
  s.Keyed ∧ ∃ m, s.row? row.id = some (row.withTally t m)

theorem stands_of_row {id : Uuid} (hs : s.Keyed) (h : s.row? id = some row) :
    s.Stands row row.tally := by
  have hid := row?_id h
  subst hid
  exact ⟨hs, row.updatedAt, h⟩

namespace Stands

theorem tally_eq (h : s.Stands row t) : s.tally row.id = some t := by
  obtain ⟨-, m, hm⟩ := h
  simp [Store.tally, hm]

/-- Only the rows of accounts matter. -/
theorem of_accounts (h : s.Stands row t) (he : s'.accounts = s.accounts) : s'.Stands row t := by
  unfold Stands Keyed row? at *
  rw [he]
  exact h

theorem any_id (h : s.Stands row t) : s.accounts.any (·.id == row.id) = true := by
  obtain ⟨hs, m, hm⟩ := h
  have hany := any_row hs row.id fun _ => true
  simpa [hm] using hany

theorem any_mayReserve (h : s.Stands row t) :
    (s.accounts.any fun a => a.id == row.id && mayReserve a) = row.admits t.reviews := by
  obtain ⟨hs, m, hm⟩ := h
  rw [any_row hs, hm]
  rfl

/-- A change in place of the tally alone. -/
theorem updateRow (h : s.Stands row t) (now : Moment) {change : Account → Account} (t' : Tally)
    (hid : ∀ a, (change a).id = a.id)
    (hrow : ∀ m, { change (row.withTally t m) with updatedAt := now } = row.withTally t' now) :
    (s.updateRow now row.id change).2.Stands row t' := by
  obtain ⟨hs, m, hm⟩ := h
  refine ⟨hs.updateRow now hid, now, ?_⟩
  rw [row?_updateRow now s hid, hm, Option.map_some, hrow m]

/-- A review is counted if and only if the profile admits it. -/
theorem reserveReview (h : s.Stands row t) (now : Moment) :
    (s.reserveReview now row.id).1 = row.admits t.reviews ∧
      (s.reserveReview now row.id).2.Stands row (Tally.Change.reserve.apply row.admits t) := by
  unfold Store.reserveReview
  rw [h.any_mayReserve]
  by_cases ha : row.admits t.reviews
  · simp only [ha, ↓reduceIte, Tally.Change.apply]
    exact ⟨h.any_id, h.updateRow now _ (fun _ => rfl) fun _ => rfl⟩
  · simp only [ha, ↓reduceIte, Tally.Change.apply, Bool.false_eq_true]
    exact ⟨by simp, h⟩

/-- Files are counted whenever their number fits. -/
theorem addFiles (h : s.Stands row t) (now : Moment) {count : Int} (hc : fits count = true) :
    ∃ s', s.addFiles now row.id count = .ok s' ∧ s'.reviews = s.reviews ∧
      s'.Stands row ((Tally.Change.addFiles count).apply row.admits t) := by
  refine ⟨_, if_pos hc, rfl, ?_⟩
  simp only [Tally.Change.apply, hc, ↓reduceIte]
  exact h.updateRow now _ (fun _ => rfl) fun _ => rfl

/-- Every change of the store is the same change of the tally. -/
theorem run (h : s.Stands row t) (now : Moment) (c : Tally.Change) :
    (c.run now row.id s).Stands row (c.apply row.admits t) := by
  cases c with
  | reserve => exact (h.reserveReview now).2
  | release => exact h.updateRow now _ (fun _ => rfl) fun _ => rfl
  | addFiles count =>
    by_cases hc : fits count
    · obtain ⟨s', hs', -, h'⟩ := h.addFiles now hc
      rw [Tally.Change.run, hs']
      exact h'
    · simpa [Tally.Change.run, Store.addFiles, hc, Tally.Change.apply] using h
  | reset => exact h.updateRow now _ (fun _ => rfl) fun _ => rfl

theorem runAll (h : s.Stands row t) (cs : List (Moment × Tally.Change)) :
    (Tally.Change.runAll row.id s cs).Stands row (Tally.Change.applyAll row.admits t cs) := by
  induction cs generalizing s t with
  | nil => exact h
  | cons c rest ih => exact ih (h.run c.1 c.2)

end Stands

end Store

end ReviewDesk
