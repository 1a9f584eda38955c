import Mathlib
import ReviewDesk.Proofs.Columns
import ReviewDesk.Store.AccountColumns

/-!
# Accounts that are read from their rows

An account that passes the checks of its reader is read from its row as it was written. What is kept
of an account is therefore the account, whether or not it passes.
-/
namespace ReviewDesk

/-- An account that has a name and an e-mail address of moderate length, a limit of one at least,
counters that are not negative, and moments on the calendar. -/
structure Account.Valid (a : Account) : Prop where
  username : 1 ≤ a.username.length ∧ a.username.length ≤ Account.usernameLimit
  email : 3 ≤ a.email.length ∧ a.email.length ≤ Account.emailLimit
  limit : ∀ n ∈ a.usageLimit, 1 ≤ n
  reviews : 0 ≤ a.reviewsCount
  files : 0 ≤ a.filesReviewed
  lastLoginAt : ∀ m ∈ a.lastLoginAt, m.Storable
  createdAt : a.createdAt.Storable
  updatedAt : a.updatedAt.Storable

namespace Store

namespace Cell

@[simp] theorem named_role (r : Role) : (text r.name).named? Role.all Role.name = some r := by
  cases r <;> rfl

@[simp] theorem named_tier (t : Tier) : (text t.name).named? Tier.all Tier.name = some t := by
  cases t <;> rfl

theorem atLeast_integer {least n : Int} : (integer n).atLeast? least =
    if n < least then none else some n := rfl

theorem atLeast_of_le {least n : Int} (h : least ≤ n) :
    (integer n).atLeast? least = some n := by
  rw [atLeast_integer, if_neg (Int.not_lt.mpr h)]

theorem eq_of_atLeast {least n k : Int} (h : (integer n).atLeast? least = some k) : k = n := by
  rw [atLeast_integer] at h
  split_ifs at h
  exact (Option.some.inj h).symm

end Cell

theorem nullable_moment {value : Option Moment} (h : ∀ m ∈ value, m.Storable) :
    (Cell.ofOption .ofMoment value).nullable Cell.moment? = some value :=
  Cell.nullable_ofOption (fun _ => Cell.noConfusion) fun m hm => Cell.moment_ofMoment (h m hm)

theorem onCalendar_iff {m : Moment} : onCalendar m = true ↔ m.Storable := by
  rw [onCalendar, Bool.and_eq_true, Moment.Storable]
  cases m.zone <;> simp

/-- What is checked when the row of an account is read. -/
theorem readAccount_accountRow (a : Account) :
    readAccount (accountRow a) = do
      let username ←
        (Field.checkLength (some 1) (some Account.usernameLimit) a.username).toOption
      let email ← (Field.checkLength (some 3) (some Account.emailLimit) a.email).toOption
      let usageLimit ← (Cell.ofOption .integer a.usageLimit).nullable (Cell.atLeast? 1)
      let reviewsCount ← (Cell.integer a.reviewsCount).atLeast? 0
      let filesReviewed ← (Cell.integer a.filesReviewed).atLeast? 0
      let lastLoginAt ← (Cell.ofOption .ofMoment a.lastLoginAt).nullable Cell.moment?
      let createdAt ← (Cell.ofMoment a.createdAt).moment?
      let updatedAt ← (Cell.ofMoment a.updatedAt).moment?
      return {
        a with
        username, email, usageLimit, reviewsCount, filesReviewed, lastLoginAt, createdAt,
        updatedAt } := by
  simp [readAccount, accountRow, Row.cell, List.lookup, Cell.checked?]

/-- An account that passes the checks is read as it was written. -/
theorem readAccount_of_valid {a : Account} (h : a.Valid) : readAccount (accountRow a) = some a := by
  have husername := Field.checkLength_eq_good.mpr ⟨h.username, rfl⟩
  have hemail := Field.checkLength_eq_good.mpr ⟨h.email, rfl⟩
  have hlimit : (Cell.ofOption .integer a.usageLimit).nullable (Cell.atLeast? 1) =
      some a.usageLimit :=
    Cell.nullable_ofOption (fun _ => Cell.noConfusion) fun n hn => Cell.atLeast_of_le (h.limit n hn)
  simp [readAccount_accountRow, husername, hemail, hlimit, Cell.atLeast_of_le h.reviews,
    Cell.atLeast_of_le h.files, nullable_moment h.lastLoginAt, Cell.moment_ofMoment h.createdAt,
    Cell.moment_ofMoment h.updatedAt, Checked.toOption]

theorem eq_of_nullable_atLeast {least : Int} {value result : Option Int}
    (h : (Cell.ofOption .integer value).nullable (Cell.atLeast? least) = some result) :
    result = value := by
  cases value with
  | none => exact (Option.some.inj h).symm
  | some n =>
    rw [Cell.ofOption, Option.elim_some, Cell.nullable_of_ne_null Cell.noConfusion,
      Option.map_eq_some_iff] at h
    obtain ⟨k, hk, rfl⟩ := h
    rw [Cell.eq_of_atLeast hk]

/-- What is read from the row of an account with moments on the calendar is the account. -/
theorem eq_of_readAccount {a b : Account} (hlogin : ∀ m ∈ a.lastLoginAt, m.Storable)
    (hcreated : a.createdAt.Storable) (hupdated : a.updatedAt.Storable)
    (h : readAccount (accountRow a) = some b) : b = a := by
  simp only [readAccount_accountRow, nullable_moment hlogin, Cell.moment_ofMoment hcreated,
    Cell.moment_ofMoment hupdated, Option.bind_eq_bind, Option.bind_some,
    Option.bind_eq_some_iff] at h
  obtain ⟨username, husername, email, hemail, limit, hlimit, reviews, hreviews, files, hfiles,
    hb⟩ := h
  rw [← (Field.checkLength_eq_good.mp (eq_good_of_toOption husername)).2,
    ← (Field.checkLength_eq_good.mp (eq_good_of_toOption hemail)).2,
    eq_of_nullable_atLeast hlimit, Cell.eq_of_atLeast hreviews, Cell.eq_of_atLeast hfiles] at hb
  exact (Option.some.inj hb).symm

@[simp] theorem keptAccount_eq (a : Account) : keptAccount a = a := by
  rw [keptAccount]
  split
  · next hmoments =>
    simp only [Bool.and_eq_true, onCalendar_iff, Option.all_eq_true] at hmoments
    obtain ⟨⟨hlogin, hcreated⟩, hupdated⟩ := hmoments
    cases hread : readAccount (accountRow a) with
    | none => rfl
    | some b => exact eq_of_readAccount hlogin hcreated hupdated hread
  · rfl

end Store

end ReviewDesk
