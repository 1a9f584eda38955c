import ReviewDesk.Proofs.Saving

/-!
# Saving an account writes one row

An account is saved over the row with its identifier, or as a new row, unless another account has
its name, its e-mail address or its GitHub identity. It is then found as it was saved under its
identifier, its name and its GitHub identity. All other rows and all reviews stay as they are; so
they do if the account is refused.
-/
namespace ReviewDesk

namespace Store

variable {s s' : Store} {a : Account}

/-- Another account has the name, the e-mail address or the GitHub identity of an account. -/
def Contested (a : Account) (s : Store) : Prop :=
  ∃ b ∈ s.accounts, b.id ≠ a.id ∧
    (b.username = a.username ∨ b.email = a.email ∨ ∃ g, a.githubId = some g ∧ b.githubId = some g)

/-- What a store is after a row was written in it. -/
structure Upserted (row : Account) (s s' : Store) : Prop where
  /-- The columns of the row are read as the row. -/
  columns : readAccount (accountRow row) = some row
  found : s'.getAccount row.id = .ok (some row)
  named : s'.accountNamed row.username = .ok (some row)
  linked : ∀ g ∈ row.githubId, s'.accountWithGitHub g = .ok (some row)
  others : s'.accounts.filter (·.id != row.id) = s.accounts.filter (·.id != row.id)
  reviews : s'.reviews = s.reviews

theorem contested_iff (row : Account) : s.accounts.any (clashes row) = true ↔ s.Contested row := by
  rw [List.any_eq_true, Contested]
  refine exists_congr fun b => and_congr_right fun _ => ?_
  simp only [clashes, Bool.and_eq_true, bne_iff_ne, Bool.or_eq_true, beq_iff_eq,
    Option.isSome_iff_exists, or_assoc]
  constructor
  · rintro ⟨hid, hname | hemail | ⟨⟨g, hg⟩, hsame⟩⟩
    · exact ⟨Ne.symm hid, .inl hname.symm⟩
    · exact ⟨Ne.symm hid, .inr (.inl hemail.symm)⟩
    · exact ⟨Ne.symm hid, .inr (.inr ⟨g, hg, hsame ▸ hg⟩)⟩
  · rintro ⟨hid, hname | hemail | ⟨g, hg, hsame⟩⟩
    · exact ⟨Ne.symm hid, .inl hname.symm⟩
    · exact ⟨Ne.symm hid, .inr (.inl hemail.symm)⟩
    · exact ⟨Ne.symm hid, .inr (.inr ⟨⟨g, hg⟩, hg.trans hsame.symm⟩)⟩

theorem Distinct.free (hs : s.Distinct) (ha : a ∈ s.accounts) : ¬s.Contested a := by
  rintro ⟨b, hb, hne, hclash⟩
  have hapart := hs a ha b hb hne.symm
  rcases hclash with hname | hemail | ⟨g, hg, hsame⟩
  · exact hapart.username hname.symm
  · exact hapart.email (congrArg foldEmail hemail.symm)
  · exact hapart.github (by simp [hg]) (hg.trans hsame.symm)

/-- Whether an account is contested depends on what is unique about it and on the other rows. -/
theorem free_of_others {b : Account} (hid : b.id = a.id)
    (hsame : b.username = a.username ∧ b.email = a.email ∧ b.githubId = a.githubId)
    (hothers : s'.accounts.filter (·.id != a.id) = s.accounts.filter (·.id != a.id))
    (h : ¬s.Contested a) : ¬s'.Contested b := by
  obtain ⟨hname, hemail, hgithub⟩ := hsame
  rintro ⟨x, hx, hne, hclash⟩
  rw [hid] at hne
  have hmem : x ∈ s'.accounts.filter (·.id != a.id) :=
    List.mem_filter.mpr ⟨hx, bne_iff_ne.mpr hne⟩
  rw [hothers] at hmem
  rw [hname, hemail, hgithub] at hclash
  exact h ⟨x, (List.mem_filter.mp hmem).1, hne, hclash⟩

/-- An account whose numbers fit is refused if it is contested, and else put among the rows. -/
theorem saveAccount_eq (now : Moment) (hfits : fitsAccount a = true) :
    (s.Contested a → s.saveAccount now a = .error (.accountConflict a.username)) ∧
    (¬s.Contested a → s.saveAccount now a = .ok ({ a with updatedAt := now },
      { s with accounts := putRow { a with updatedAt := now } s.accounts })) := by
  have hrow : fitsAccount { a with updatedAt := now } = true := hfits
  have hcontested := contested_iff (s := s) { a with updatedAt := now }
  constructor
  · intro h
    simp [saveAccount, hrow, hcontested.mpr h]
  · intro h
    simp [saveAccount, hrow, eq_false_of_ne_true (mt hcontested.mp h)]

/-- A row that is put is the first of those that are looked for, if the others that are looked for
are rows with its identifier. -/
theorem filter_putRow_eq_cons {p : Account → Bool} (ha : p a = true) {rows : List Account}
    (hrows : ∀ b ∈ rows, b.id ≠ a.id → p b = false) :
    ∃ rest, (putRow a rows).filter p = a :: rest := by
  induction rows with
  | nil => exact ⟨[], by simp [putRow, ha]⟩
  | cons b rows ih =>
    obtain ⟨hb, hrest⟩ := List.forall_mem_cons.mp hrows
    obtain ⟨rest, hputs⟩ := ih hrest
    by_cases hid : b.id = a.id
    · exact ⟨rows.filter p, by simp [putRow, hid, ha]⟩
    · exact ⟨rest, by simp [putRow, hid, hb hid, hputs]⟩

theorem filter_putRow_others (a : Account) (rows : List Account) :
    (putRow a rows).filter (·.id != a.id) = rows.filter (·.id != a.id) := by
  induction rows with
  | nil => simp [putRow]
  | cons b rows ih =>
    by_cases hid : b.id = a.id
    · simp [putRow, hid]
    · simp [putRow, hid, ih]

theorem fitsAccount_iff (a : Account) :
    fitsAccount a = true ↔ (∀ g ∈ a.githubId, fits g = true) ∧ (∀ n ∈ a.usageLimit, fits n = true) ∧
      fits a.reviewsCount = true ∧ fits a.filesReviewed = true := by
  simp only [fitsAccount, Bool.and_eq_true, Option.all_eq_true, Option.mem_def, and_assoc]

theorem upserted_putRow {row : Account} (hvalid : row.Valid) (hfits : fitsAccount row = true)
    (h : ¬s.Contested row) : Upserted row s { s with accounts := putRow row s.accounts } := by
  obtain ⟨hgithub, -, hreviews, hfiles⟩ := (fitsAccount_iff row).mp hfits
  have hload : loadRow row = .ok row :=
    loadRow_eq_ok_iff.mpr ⟨⟨hreviews, hvalid.reviews⟩, ⟨hfiles, hvalid.files⟩, rfl⟩
  -- Whatever the row is looked for by, no other account has it.
  have hfirst {p : Account → Bool} (hp : p row = true)
      (hothers : ∀ b ∈ s.accounts, b.id ≠ row.id → p b = false) :
      loadFirst ((putRow row s.accounts).filter p) = .ok (some row) := by
    obtain ⟨rest, hrest⟩ := filter_putRow_eq_cons hp hothers
    rw [hrest, loadFirst, hload]
    rfl
  refine ⟨readAccount_of_valid hvalid, ?_, ?_, fun g hg => ?_,
    filter_putRow_others row s.accounts, rfl⟩
  · exact hfirst BEq.rfl fun b _ hid => beq_false_of_ne hid
  · exact hfirst BEq.rfl fun b hb hid => beq_false_of_ne fun hname => h ⟨b, hb, hid, .inl hname⟩
  · have hlink : row.githubId = some g := hg
    rw [accountWithGitHub, if_pos (hgithub g hg)]
    refine hfirst (by simp [hlink]) fun b hb hid => ?_
    exact beq_false_of_ne fun hsame => h ⟨b, hb, hid, .inr (.inr ⟨g, hlink, hsame⟩)⟩

end Store

theorem Account.Valid.updated {a : Account} (h : a.Valid) {now : Moment} (hnow : now.Storable) :
    ({ a with updatedAt := now } : Account).Valid :=
  { h with updatedAt := hnow }

namespace Desk

open Store (Contested Upserted fitsAccount)

variable {σ : Type}

/-- An account with all that an account can have. -/
def wholeAccount (id : Nat) (email : String) : Account where
  id := Uuid.ofNat id
  username := "Größe"
  email
  passwordHash := some "$2b$04$"
  fullName := some ""
  avatarUrl := some "https://example.com/a.png"
  githubId := some 9223372036854775807
  githubUsername := some "grace"
  githubToken := some "token"
  role := .admin
  tier := .premium
  isActive := false
  emailVerified := true
  isSpecial := true
  usageLimit := some 1
  reviewsCount := 9223372036854775807
  filesReviewed := 12
  lastLoginAt := some ⟨1700000000123456, some (-12600)⟩
  createdAt := ⟨1700000001000000, none⟩
  updatedAt := ⟨1, some 19800⟩

theorem valid_wholeAccount (id : Nat) : (wholeAccount id "ada@example.com").Valid where
  username := (by decide : 1 ≤ "Größe".length ∧ "Größe".length ≤ Account.usernameLimit)
  email := (by decide : 3 ≤ "ada@example.com".length ∧
    "ada@example.com".length ≤ Account.emailLimit)
  limit n hn := by
    cases hn
    decide
  reviews := (by decide : (0 : Int) ≤ 9223372036854775807)
  files := (by decide : (0 : Int) ≤ 12)
  lastLoginAt m hm := by
    cases hm
    exact ⟨by decide, fun offset h => by cases h; decide⟩
  createdAt := ⟨(by decide : Moment.inRange ⟨1700000001000000, none⟩ = true), fun _ h => nomatch h⟩
  updatedAt := ⟨(by decide : Moment.inRange ⟨1, some 19800⟩ = true),
    fun offset h => by cases h; decide⟩

end Desk

end ReviewDesk
