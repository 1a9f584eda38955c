import Mathlib
import ReviewDesk.Proofs.Bearer
import ReviewDesk.Proofs.GitHubSignIn

/-!
# What an update of an account changes

An update names some fields of an account. The others stay, and so do all other accounts and all
reviews; asking for the same again changes nothing more. With one exception: an update that makes
an account special without naming a limit takes away the limit that the account has.
-/
namespace ReviewDesk

namespace Account

/-- A field has the value that is asked for, or is as it was. -/
def Follows {α : Type} (asked : Option α) (before after : α) : Prop :=
  (asked = none → after = before) ∧ ∀ value ∈ asked, after = value

theorem follows_getD {α : Type} (asked : Option α) (before : α) :
    Follows asked before (asked.getD before) := by
  refine ⟨fun h => by rw [h]; rfl, fun value h => ?_⟩
  rw [Option.mem_def.mp h]
  rfl

theorem getD_getD {α : Type} (asked : Option α) (before : α) :
    asked.getD (asked.getD before) = asked.getD before := by
  cases asked <;> rfl

/-- What an account is after an update, its limit apart. -/
structure Updated (u : Update) (a b : Account) : Prop where
  fullName : Follows (u.fullName.map some) a.fullName b.fullName
  role : Follows u.role a.role b.role
  tier : Follows u.tier a.tier b.tier
  isActive : Follows u.isActive a.isActive b.isActive
  isSpecial : Follows u.isSpecial a.isSpecial b.isSpecial
  others : b = { a with
    fullName := b.fullName
    role := b.role
    tier := b.tier
    isActive := b.isActive
    isSpecial := b.isSpecial
    usageLimit := b.usageLimit
    updatedAt := b.updatedAt }

/-- The limit is what is asked for if the account is special after all. Else it is as it was, but
for an account that is asked not to be special. -/
def LimitFollows (u : Update) (a b : Account) : Prop :=
  Follows (if b.isSpecial then u.usageLimit.map some else none)
    (if u.isSpecial = some false then none else a.usageLimit) b.usageLimit

/-- The account has a limit and is made special without one. -/
def Update.DropsLimit (u : Update) (a : Account) : Prop :=
  u.isSpecial = some true ∧ u.usageLimit = none ∧ a.usageLimit ≠ none

instance (u : Update) (a : Account) : Decidable (u.DropsLimit a) :=
  inferInstanceAs (Decidable (_ ∧ _))

/-- The fields of an update one by one. -/
theorem update_eq (u : Update) (a : Account) :
    a.update u = { a with
      fullName := (u.fullName.map some).getD a.fullName
      role := u.role.getD a.role
      tier := u.tier.getD a.tier
      isActive := u.isActive.getD a.isActive
      isSpecial := u.isSpecial.getD a.isSpecial
      usageLimit := match u.isSpecial with
        | some true => u.usageLimit
        | some false => none
        | none => if a.isSpecial then u.usageLimit.or a.usageLimit else a.usageLimit } := by
  have hname : u.fullName.or a.fullName = (u.fullName.map some).getD a.fullName := by
    cases u.fullName <;> rfl
  unfold update
  rw [hname]
  cases hspecial : u.isSpecial with
  | some special => cases special <;> rfl
  | none =>
    dsimp only
    split_ifs <;> rfl

theorem updated_update (u : Update) (a : Account) (now : Moment) :
    Updated u a { a.update u with updatedAt := now } := by
  rw [update_eq]
  exact ⟨follows_getD _ _, follows_getD _ _, follows_getD _ _, follows_getD _ _, follows_getD _ _,
    rfl⟩

/-- The limit goes wrong in one case only. -/
theorem limitFollows_update_iff (u : Update) (a : Account) (now : Moment) :
    LimitFollows u a { a.update u with updatedAt := now } ↔ ¬u.DropsLimit a := by
  rw [update_eq]
  unfold LimitFollows Follows Update.DropsLimit
  cases hspecial : u.isSpecial with
  | some special =>
    cases special
    · simp
    · cases u.usageLimit <;> simp [eq_comm]
  | none =>
    cases a.isSpecial
    · simp
    · cases u.usageLimit <;> simp

/-- An update that has been made changes nothing more. -/
theorem update_update (u : Update) (a : Account) (now : Moment) :
    ({ a.update u with updatedAt := now } : Account).update u =
      { a.update u with updatedAt := now } := by
  have hlimit : u.usageLimit.or (u.usageLimit.or a.usageLimit) = u.usageLimit.or a.usageLimit := by
    rw [← Option.or_assoc, Option.or_self]
  rw [update_eq u a, update_eq]
  simp only [getD_getD]
  cases hspecial : u.isSpecial with
  | some special => cases special <;> rfl
  | none => cases a.isSpecial <;> simp [hlimit]

/-- The numbers that come in only with a whole row fit in 64 bits. -/
def Bounded (a : Account) : Prop :=
  (∀ g ∈ a.githubId, Store.fits g = true) ∧ ∀ n ∈ a.usageLimit, Store.fits n = true

end Account

namespace Store

variable {s s' : Store} {fit : Review → Prop} {a : Account}

/-- What the store has made sure of about each of its rows. -/
structure Admitted (s : Store) (a : Account) : Prop where
  free : ¬s.Contested a
  bounded : a.Bounded

/-! ## Rows that were admitted -/

theorem fitsAccount_of_saveAccount {now : Moment} {row : Account}
    (h : s.saveAccount now a = .ok (row, s')) : fitsAccount a = true := by
  by_contra hnot
  have hrow : fitsAccount { a with updatedAt := now } = false := Bool.not_eq_true _ ▸ hnot
  simp [saveAccount, hrow] at h

theorem bounded_saveAccount {now : Moment} {row : Account} (hs : ∀ x ∈ s.accounts, x.Bounded)
    (h : s.saveAccount now a = .ok (row, s')) : ∀ x ∈ s'.accounts, x.Bounded := by
  obtain ⟨hgithub, hlimit, -⟩ := (fitsAccount_iff a).mp (fitsAccount_of_saveAccount h)
  obtain ⟨rfl, rfl⟩ := saveAccount_eq_ok h
  intro x hx
  rcases mem_putRow hx with rfl | hx
  · exact ⟨hgithub, hlimit⟩
  · exact hs x hx

theorem bounded_step (hs : ∀ x ∈ s.accounts, x.Bounded) (h : Step fit s s') :
    ∀ x ∈ s'.accounts, x.Bounded := by
  cases h with
  | join _ _ h => exact bounded_saveAccount hs h
  | write _ _ h => exact bounded_saveAccount hs h
  | leave id => exact fun x hx => hs x (List.mem_filter.mp hx).1
  | count now id hc =>
    obtain ⟨f, hrun, hf⟩ := recounted_run hc now id s
    rw [hrun]
    intro x hx
    obtain ⟨y, hy, rfl⟩ := List.mem_map.mp hx
    rcases hf y with h | ⟨t, h, -⟩ <;> rw [h] <;> exact hs y hy
  | keep _ h =>
    rw [saveReview_accounts h]
    exact hs
  | drop id => exact hs
  | resolve review finding flag => exact hs

end Store

/-- In every store that the desk can get to, each row was admitted. -/
theorem ReachableBy.admitted {allowed : Moment → Operation → Prop} {s : Store}
    (hs : ReachableBy allowed s) {a : Account} (ha : a ∈ s.accounts) : s.Admitted a where
  free := Store.Distinct.free hs.orderly.apart ha
  bounded := hs.induct (P := fun s => ∀ x ∈ s.accounts, x.Bounded) (by simp)
    (fun _ _ _ _ _ h _ hs => Store.bounded_step hs h) a ha

namespace Desk

variable {σ : Type} {d : Desk σ} {id : Uuid} {u : Account.Update} {a : Account}

/-- The limit that is asked for matters only for an account that is special after all. -/
def LimitFits (u : Account.Update) (a : Account) : Prop :=
  u.isSpecial.getD a.isSpecial = true → ∀ n ∈ u.usageLimit, Store.fits n = true

theorem fitsAccount_update_iff (hbounded : a.Bounded) (hreadable : a.Readable) :
    Store.fitsAccount (a.update u) = true ↔ LimitFits u a := by
  obtain ⟨hgithub, hlimit⟩ := hbounded
  obtain ⟨⟨hreviews, -⟩, hfiles, -⟩ := hreadable
  rw [Store.fitsAccount_iff, Account.update_eq]
  dsimp only
  unfold LimitFits
  simp only [hreviews, hfiles, and_true]
  rw [and_iff_right hgithub]
  cases hspecial : u.isSpecial with
  | some special => cases special <;> simp
  | none =>
    cases a.isSpecial
    · simpa using hlimit
    · cases u.usageLimit
      · simpa using hlimit
      · simp

theorem outcome_updateAccount (hrow : d.store.row? id = some a) (hreadable : a.Readable) :
    outcome (updateAccount id u) d = outcome (saveAccount (a.update u)) d := by
  have hload := outcome_accountOf d id
  rw [Store.getAccount_eq_ok_iff.mpr ⟨hrow, hreadable⟩] at hload
  rw [updateAccount, outcome_bind_ok hload]

/-- An update of a row that can be read, with a limit that fits, is written. -/
theorem outcome_updateAccount_ok (hrow : d.store.row? id = some a)
    (hadmitted : d.store.Admitted a) (hreadable : a.Readable) (hlimit : LimitFits u a) :
    outcome (updateAccount id u) d = (.ok { a.update u with updatedAt := d.now }, { d with
      store := { d.store with
        accounts := Store.putRow { a.update u with updatedAt := d.now } d.store.accounts } }) := by
  have hfits := (fitsAccount_update_iff hadmitted.bounded hreadable).mpr hlimit
  have hfree : ¬d.store.Contested (a.update u) := by
    rw [Account.update_eq]
    exact Store.free_of_others rfl ⟨rfl, rfl, rfl⟩ rfl hadmitted.free
  rw [outcome_updateAccount hrow hreadable]
  exact outcome_saveAccount_ok d ((Store.saveAccount_eq d.now hfits).2 hfree)

theorem outcome_updateAccount_error (hrow : d.store.row? id = some a)
    (hadmitted : d.store.Admitted a) (h : ¬(a.Readable ∧ LimitFits u a)) :
    ∃ fault, outcome (updateAccount id u) d = (.error (.store fault), d) := by
  by_cases hreadable : a.Readable
  · have hlimit : ¬LimitFits u a := fun hlimit => h ⟨hreadable, hlimit⟩
    have hfits := mt (fitsAccount_update_iff hadmitted.bounded hreadable).mp hlimit
    rw [outcome_updateAccount hrow hreadable]
    refine ⟨.integerOverflow, outcome_saveAccount_error d ?_⟩
    have hrow : Store.fitsAccount { a.update u with updatedAt := d.now } = false :=
      Bool.not_eq_true _ ▸ hfits
    simp [Store.saveAccount, hrow]
  · obtain ⟨problems, hget⟩ := Store.getAccount_of_not_readable hrow hreadable
    have hload := outcome_accountOf d id
    rw [hget] at hload
    rw [updateAccount, outcome_bind_error hload]
    exact ⟨_, rfl⟩

/-- What a store is after an update of one of its accounts. -/
structure Amended (u : Account.Update) (a b : Account) (s s' : Store) : Prop where
  row : s'.row? a.id = some b
  updated : Account.Updated u a b
  ids : s'.accounts.map (·.id) = s.accounts.map (·.id)
  others : s'.accounts.filter (·.id != a.id) = s.accounts.filter (·.id != a.id)
  reviews : s'.reviews = s.reviews

theorem amended_putRow {s : Store} (ha : a ∈ s.accounts) (u : Account.Update) (now : Moment) :
    Amended u a { a.update u with updatedAt := now } s
      { s with accounts := Store.putRow { a.update u with updatedAt := now } s.accounts } := by
  have hid : ({ a.update u with updatedAt := now } : Account).id = a.id := by
    rw [Account.update_eq]
  constructor
  · have hrow := Store.find_putRow { a.update u with updatedAt := now } a.id s.accounts
    rwa [if_pos hid] at hrow
  · exact Account.updated_update u a now
  · exact Store.ids_putRow (by rw [hid]; exact List.mem_map_of_mem ha)
  · have hothers := Store.filter_putRow_others { a.update u with updatedAt := now } s.accounts
    rwa [hid] at hothers
  · rfl

/-- The same update can be made again, and leaves the account as it is. -/
theorem outcome_updateAccount_again {d' : Desk σ} (hadmitted : d.store.Admitted a)
    (hreadable : a.Readable) (hlimit : LimitFits u a) {now : Moment}
    (h : Amended u a { a.update u with updatedAt := now } d.store d'.store) :
    ∃ d'', outcome (updateAccount a.id u) d' =
      (.ok { a.update u with updatedAt := d'.now }, d'') := by
  have hfits := (fitsAccount_update_iff hadmitted.bounded hreadable).mpr hlimit
  obtain ⟨hgithub, husage, -⟩ := (Store.fitsAccount_iff _).mp hfits
  have hadmitted' : d'.store.Admitted { a.update u with updatedAt := now } := by
    refine ⟨?_, hgithub, husage⟩
    rw [Account.update_eq]
    exact Store.free_of_others rfl ⟨rfl, rfl, rfl⟩ h.others hadmitted.free
  have hreadable' : ({ a.update u with updatedAt := now } : Account).Readable := by
    rw [Account.update_eq]
    exact hreadable
  have hlimit' : LimitFits u { a.update u with updatedAt := now } := by
    rw [Account.update_eq]
    unfold LimitFits
    dsimp only
    rw [Account.getD_getD]
    exact hlimit
  have hagain := outcome_updateAccount_ok h.row hadmitted' hreadable' hlimit'
  rw [Account.update_update] at hagain
  exact ⟨_, hagain⟩

/-- An update of a stored account is made if the counters of the row can be read and the limit fits,
and changes nothing if not. If it is made, the fields that it names have the values that it names
and the others stay, all other accounts and all reviews stay, and the same update made again gives
the same account. All this holds of the limit too, if and only if the update does not make an
account special that has a limit without naming one. -/
theorem updateAccount_amends (d : Desk σ) (u : Account.Update)
    (hrow : d.store.row? id = some a) (hadmitted : d.store.Admitted a) :
    ((∃ b d', outcome (updateAccount id u) d = (.ok b, d')) ↔ a.Readable ∧ LimitFits u a) ∧
    (∀ failure d', outcome (updateAccount id u) d = (.error failure, d') → d' = d) ∧
    ∀ b d', outcome (updateAccount id u) d = (.ok b, d') →
      Amended u a b d.store d'.store ∧
      (Account.LimitFollows u a b ↔ ¬u.DropsLimit a) ∧
      ∀ later, ∃ d'', outcome (updateAccount id u) { d' with now := later } =
        (.ok { b with updatedAt := later }, d'') := by
  obtain rfl : a.id = id := Store.row?_id hrow
  by_cases hmade : a.Readable ∧ LimitFits u a
  · have houtcome := outcome_updateAccount_ok hrow hadmitted hmade.1 hmade.2
    refine ⟨iff_of_true ⟨_, _, houtcome⟩ hmade, fun failure d' h => ?_, fun b d' h => ?_⟩
    · rw [houtcome] at h
      cases h
    · rw [houtcome, Prod.mk.injEq, Except.ok.injEq] at h
      obtain ⟨rfl, rfl⟩ := h
      have hamended := amended_putRow (Store.row?_mem hrow) u d.now
      exact ⟨hamended, Account.limitFollows_update_iff u a d.now, fun later =>
        outcome_updateAccount_again hadmitted hmade.1 hmade.2 hamended⟩
  · obtain ⟨fault, hfails⟩ := outcome_updateAccount_error hrow hadmitted hmade
    have hnever : ∀ b d', outcome (updateAccount a.id u) d ≠ (.ok b, d') := by
      intro b d' h
      rw [hfails] at h
      cases h
    refine ⟨iff_of_false (fun ⟨b, d', h⟩ => hnever b d' h) hmade, fun failure d' h => ?_,
      fun b d' h => absurd h (hnever b d')⟩
    rw [hfails] at h
    cases h
    rfl

/-- The row of the special account among the two. -/
theorem twoAccounts_special : ∃ a, twoAccounts.row? (Uuid.ofNat 4) = some a ∧
    twoAccounts.Admitted a ∧ a.Readable ∧ a.usageLimit = some 5 := by
  have hstored : (twoAccounts.row? (Uuid.ofNat 4)).any
      (fun a => decide (a.Readable ∧ a.usageLimit = some 5)) = true := by decide +kernel
  obtain ⟨a, hrow, hspecial⟩ := (Option.any_eq_true _ _).mp hstored
  rw [decide_eq_true_eq] at hspecial
  exact ⟨a, hrow, (reachable_storeAfter [] _).admitted (Store.row?_mem hrow), hspecial⟩

/-- Its tier and its limit are replaced, and nothing else. -/
theorem updateAccount_amends_premium :
    ∃ a b d', twoAccounts.row? (Uuid.ofNat 4) = some a ∧
      outcome (updateAccount (Uuid.ofNat 4) { tier := some .premium, usageLimit := some 7 })
        { newDesk [] with store := twoAccounts } = (.ok b, d') ∧
      Amended { tier := some .premium, usageLimit := some 7 } a b twoAccounts d'.store ∧
      Account.LimitFollows { tier := some .premium, usageLimit := some 7 } a b := by
  obtain ⟨a, hrow, hadmitted, hread, -⟩ := twoAccounts_special
  obtain ⟨hmade, -, hresult⟩ := updateAccount_amends { newDesk [] with store := twoAccounts }
    { tier := some .premium, usageLimit := some 7 } hrow hadmitted
  obtain ⟨b, d', houtcome⟩ := hmade.mpr ⟨hread, by rintro - n ⟨⟩; decide⟩
  obtain ⟨hamended, hlimit, -⟩ := hresult b d' houtcome
  exact ⟨a, b, d', hrow, houtcome, hamended, hlimit.mpr (by simp [Account.Update.DropsLimit])⟩

/-- An update that only says that the account is special takes its limit away. -/
theorem updateAccount_limit_dropped :
    ∃ a b d', twoAccounts.row? (Uuid.ofNat 4) = some a ∧ a.usageLimit = some 5 ∧
      outcome (updateAccount (Uuid.ofNat 4) { isSpecial := some true })
        { newDesk [] with store := twoAccounts } = (.ok b, d') ∧
      b.usageLimit = none ∧ ¬Account.LimitFollows { isSpecial := some true } a b := by
  obtain ⟨a, hrow, hadmitted, hread, hlimit⟩ := twoAccounts_special
  refine ⟨a, _, _, hrow, hlimit,
    outcome_updateAccount_ok hrow hadmitted hread (by rintro - n ⟨⟩), ?_, ?_⟩
  · rw [Account.update_eq]
  · rw [Account.limitFollows_update_iff]
    simp [Account.Update.DropsLimit, hlimit]

end Desk

end ReviewDesk
