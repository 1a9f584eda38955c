import ReviewDesk.Proofs.Tally

/-!
# The quota, kept in two places

The rule that says whether an account has a review left is written twice: for an account, branch by
branch, and for its row, as one condition. Both say the same of any values. So a review is counted
exactly when the account that is loaded from the row has one left, and then one row changes, in its
count and its time. A row whose counters no longer read cannot be loaded, but the rule of its values
is applied to it all the same.
-/
namespace ReviewDesk

variable {s : Store} {id : Uuid} {row : Account}

namespace Store

/-- The condition on a row is the rule for an account. -/
theorem mayReserve_eq_canCreateReview (row : Account) : mayReserve row = row.canCreateReview := by
  have hrole : (Role.user == Role.admin) = false := rfl
  have htier : (Tier.free == Tier.premium) = false := rfl
  unfold mayReserve Account.canCreateReview Account.isAdmin
  cases row.isActive <;> cases row.role <;> cases row.isSpecial <;> cases row.tier <;>
    simp [hrole, htier]

/-- A row that is found has its place, and no other row has its identifier. -/
theorem accounts_of_row (hs : s.Keyed) (h : s.row? id = some row) :
    ∃ before after, s.accounts = before ++ row :: after ∧
      ∀ a, a ∈ before ∨ a ∈ after → a.id ≠ id := by
  obtain ⟨hid, before, after, hsplit, hbefore⟩ := List.find?_eq_some_iff_append.mp h
  refine ⟨before, after, hsplit, ?_⟩
  rw [Keyed, hsplit, List.map_append, List.map_cons, List.nodup_middle, List.nodup_cons] at hs
  rintro a (ha | ha) haid
  · simpa [haid] using hbefore a ha
  · apply hs.1
    rw [eq_of_beq hid, ← haid]
    exact List.mem_append_right _ (List.mem_map_of_mem ha)

/-- A change in place leaves all rows but one as they are. -/
theorem accounts_updateRow (now : Moment) (change : Account → Account)
    {before after : List Account} (hsplit : s.accounts = before ++ row :: after)
    (hid : row.id = id) (hothers : ∀ a, a ∈ before ∨ a ∈ after → a.id ≠ id) :
    (s.updateRow now id change).2.accounts =
      before ++ { change row with updatedAt := now } :: after := by
  have hkeep (rows : List Account) (hrows : ∀ a ∈ rows, a.id ≠ id) :
      (rows.map fun a => if a.id == id then { change a with updatedAt := now } else a) = rows := by
    conv_rhs => rw [← List.map_id rows]
    refine List.map_congr_left fun a ha => ?_
    simp [hrows a ha]
  simp only [updateRow, hsplit, List.map_append, List.map_cons,
    hkeep before fun a ha => hothers a (.inl ha), hkeep after fun a ha => hothers a (.inr ha)]
  simp [hid]

/-- A row with a review left is the one that changes. -/
theorem reserveReview_counted (hs : s.Keyed) (now : Moment) (h : s.row? id = some row)
    (hleft : row.canCreateReview = true) :
    ∃ before after, s.accounts = before ++ row :: after ∧
      s.reserveReview now id = (true, { s with accounts := before ++
        { row with reviewsCount := plus row.reviewsCount 1, updatedAt := now } :: after }) := by
  obtain ⟨before, after, hsplit, hothers⟩ := accounts_of_row hs h
  have hid := row?_id h
  have hmay : (s.accounts.any fun a => a.id == id && mayReserve a) = true := by
    rw [any_row hs, h, Option.any_some, mayReserve_eq_canCreateReview, hleft]
  have hthere : s.accounts.any (·.id == id) = true := by simp [hsplit, hid]
  have hrows := accounts_updateRow now
    (fun a => { a with reviewsCount := plus a.reviewsCount 1 }) hsplit hid hothers
  refine ⟨before, after, hsplit, ?_⟩
  rw [reserveReview, if_pos hmay, ← hrows]
  exact Prod.ext hthere rfl

/-- Without such a row nothing changes. -/
theorem reserveReview_refused (hs : s.Keyed) (now : Moment)
    (h : ∀ row, s.row? id = some row → row.canCreateReview = false) :
    s.reserveReview now id = (false, s) := by
  have hmay : (s.accounts.any fun a => a.id == id && mayReserve a) = false := by
    rw [any_row hs]
    cases hrow : s.row? id with
    | none => rfl
    | some row => rw [Option.any_some, mayReserve_eq_canCreateReview, h row hrow]
  simp [reserveReview, hmay]

/-- A review is counted for an account if and only if there is a row for it and its values allow
one more. If the counters of the row are not negative, that is so if and only if the account that is
loaded has a review left. When a review is counted, one row changes, in its count and its time, and
nothing else does; when none is counted, nothing changes at all. -/
theorem reserveReview_iff_canCreateReview (s : Store) (hs : s.Keyed) (now : Moment) (id : Uuid)
    (hroom : ∀ row ∈ s.accounts, -2 ^ 63 ≤ row.reviewsCount ∧ row.reviewsCount < 2 ^ 63 - 1 ∧
      row.filesReviewed < 2 ^ 63 - 1) :
    ((s.reserveReview now id).1 = true ↔
      ∃ row ∈ s.accounts, row.id = id ∧ row.canCreateReview = true) ∧
    ((∀ row ∈ s.accounts, row.id = id → 0 ≤ row.reviewsCount ∧ 0 ≤ row.filesReviewed) →
      ((s.reserveReview now id).1 = true ↔
        ∃ a, s.getAccount id = .ok (some a) ∧ a.canCreateReview = true)) ∧
    ((s.reserveReview now id).1 = true → ∃ before row after,
      s.accounts = before ++ row :: after ∧ row.id = id ∧
      (s.reserveReview now id).2 = { s with accounts := before ++
        { row with reviewsCount := row.reviewsCount + 1, updatedAt := now } :: after }) ∧
    ((s.reserveReview now id).1 = false → (s.reserveReview now id).2 = s) := by
  by_cases hleft : ∃ row, s.row? id = some row ∧ row.canCreateReview = true
  · obtain ⟨row, hrow, hleft⟩ := hleft
    have hmem := row?_mem hrow
    have hid := row?_id hrow
    obtain ⟨hlow, hreviews, hfiles⟩ := hroom row hmem
    have hplus : plus row.reviewsCount 1 = row.reviewsCount + 1 :=
      plus_eq_add ((fits_iff _).mpr (by omega)) (by decide) ((fits_iff _).mpr (by omega))
    obtain ⟨before, after, hsplit, hresult⟩ := reserveReview_counted hs now hrow hleft
    rw [hresult]
    refine ⟨iff_of_true rfl ⟨row, hmem, hid, hleft⟩, fun hnonneg => iff_of_true rfl ?_,
      fun _ => ⟨before, row, after, hsplit, hid, by rw [hplus]⟩, nofun⟩
    obtain ⟨hreviews', hfiles'⟩ := hnonneg row hmem hid
    have hloaded : s.getAccount id = .ok (some row) := getAccount_eq_ok_iff.mpr
      ⟨hrow, ⟨(fits_iff _).mpr (by omega), hreviews'⟩, (fits_iff _).mpr (by omega), hfiles'⟩
    exact ⟨row, hloaded, hleft⟩
  · have hrefused : s.reserveReview now id = (false, s) :=
      reserveReview_refused hs now fun row hrow =>
        Bool.eq_false_iff.mpr fun hmay => hleft ⟨row, hrow, hmay⟩
    rw [hrefused]
    refine ⟨iff_of_false nofun ?_, fun _ => iff_of_false nofun ?_, nofun, fun _ => rfl⟩
    · rintro ⟨row, hmem, rfl, hmay⟩
      exact hleft ⟨row, row?_of_mem hs hmem, hmay⟩
    · rintro ⟨a, hloaded, hmay⟩
      exact hleft ⟨a, (getAccount_eq_ok_iff.mp hloaded).1, hmay⟩

section Example

/-- A special account that has one review left. -/
def lastOne : Account where
  id := Uuid.ofNat 1
  username := "ada"
  email := "ada@example.com"
  isSpecial := true
  usageLimit := some 2
  reviewsCount := 1
  createdAt := ⟨0, some 0⟩
  updatedAt := ⟨0, some 0⟩

/-- The last review of an account is counted, and then it has none left. -/
theorem reserveReview_iff_canCreateReview_lastOne :
    let s : Store := { accounts := [lastOne] }
    let s' := (s.reserveReview ⟨1, some 0⟩ lastOne.id).2
    (s.reserveReview ⟨1, some 0⟩ lastOne.id).1 = true ∧
    (∃ a, s.getAccount lastOne.id = .ok (some a) ∧ a.canCreateReview = true) ∧
    s'.accounts = [{ lastOne with reviewsCount := 2, updatedAt := ⟨1, some 0⟩ }] ∧
    (s'.reserveReview ⟨2, some 0⟩ lastOne.id).1 = false := by
  intro s s'
  have hroom : ∀ row ∈ s.accounts, -2 ^ 63 ≤ row.reviewsCount ∧ row.reviewsCount < 2 ^ 63 - 1 ∧
      row.filesReviewed < 2 ^ 63 - 1 := by
    simp [s, lastOne]
  obtain ⟨hrow, hloaded, hchange, -⟩ := reserveReview_iff_canCreateReview s
    (List.nodup_singleton _) ⟨1, some 0⟩ lastOne.id hroom
  have hcounted := hrow.mpr ⟨lastOne, List.mem_singleton_self _, rfl, by decide⟩
  have hafter : s'.accounts = [{ lastOne with reviewsCount := 2, updatedAt := ⟨1, some 0⟩ }] := by
    obtain ⟨before, row, after, hsplit, -, hresult⟩ := hchange hcounted
    obtain ⟨rfl, hrest⟩ | ⟨_, hrest⟩ := List.singleton_eq_append_iff.mp hsplit
    · cases hrest
      rw [show s' = _ from hresult]
      rfl
    · simp at hrest
  refine ⟨hcounted, (hloaded ?_).mp hcounted, hafter, ?_⟩
  · simp [s, lastOne]
  · simp [reserveReview, hafter, mayReserve, lastOne]

/-- The same account after more files were taken off than had been counted. -/
def overdrawn : Account := { lastOne with filesReviewed := -1, updatedAt := ⟨1, some 0⟩ }

/-- A row with a negative number of files cannot be loaded, but a review is counted for it. -/
theorem reserveReview_overdrawn :
    let s : Store := { accounts := [overdrawn] }
    Store.addFiles ⟨1, some 0⟩ lastOne.id (-1) { accounts := [lastOne] } = .ok s ∧
    (s.reserveReview ⟨2, some 0⟩ lastOne.id).1 = true ∧
    ¬ ∃ a, s.getAccount lastOne.id = .ok (some a) ∧ a.canCreateReview = true := by
  intro s
  refine ⟨rfl, by decide +kernel, ?_⟩
  rintro ⟨a, hloaded, -⟩
  obtain ⟨hrow, -, -, hfiles⟩ := getAccount_eq_ok_iff.mp hloaded
  have hsame : overdrawn = a := Option.some.inj hrow
  subst hsame
  exact absurd hfiles (by decide)

end Example

end Store

end ReviewDesk
