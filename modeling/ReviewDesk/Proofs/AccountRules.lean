import ReviewDesk.Proofs.Operations

/-!
# What holds of the accounts in the store

The store itself keeps accounts apart by name, by e-mail address as it is written and by GitHub
identity. The desk sees to the rest: addresses differ in more than the case of their letters, a
link to GitHub is whole, and only special accounts have a limit of their own. All of it holds after
every operation, because each step keeps it.
-/
namespace ReviewDesk

/-- Two accounts that can stand side by side. -/
structure Account.Apart (a b : Account) : Prop where
  username : a.username ≠ b.username
  email : Store.foldEmail a.email ≠ Store.foldEmail b.email
  github : a.githubId.isSome → a.githubId ≠ b.githubId

theorem Account.Apart.symm {a b : Account} (h : a.Apart b) : b.Apart a :=
  ⟨h.username.symm, h.email.symm, fun hb he => h.github (he ▸ hb) he.symm⟩

/-- Accounts of different identifiers are apart from each other. -/
def Store.Distinct (s : Store) : Prop :=
  ∀ a ∈ s.accounts, ∀ b ∈ s.accounts, a.id ≠ b.id → a.Apart b

/-- Every account is regular, and they are apart from each other. -/
structure Store.Orderly (s : Store) : Prop where
  regular : ∀ a ∈ s.accounts, a.Regular
  apart : ∀ a ∈ s.accounts, ∀ b ∈ s.accounts, a.id ≠ b.id → a.Apart b

namespace ProfileWrite

theorem onto_email (w : ProfileWrite) (a : Account) : (w.onto a).email = a.email := by
  cases w with
  | gitHubSignIn now profile token =>
    simp only [onto, Desk.refreshed]
    cases profile.avatarUrl.filter (!·.isEmpty) <;> rfl
  | update u =>
    simp only [onto, Account.update]
    split
    · rfl
    · rfl
    · split <;> rfl
  | _ => rfl

/-- A change of a profile leaves the account regular. -/
theorem onto_regular {a : Account} {w : ProfileWrite} (hw : w.Fitting a) (ha : a.Regular) :
    (w.onto a).Regular := by
  cases w with
  | signIn now => exact { ha with }
  | gitHubSignIn now profile token =>
    have hlinked : (some profile.login).isSome = a.githubId.isSome ∧
        (some token).isSome = a.githubId.isSome := by
      rw [show a.githubId.isSome = true from hw]
      exact ⟨rfl, rfl⟩
    simp only [onto, Desk.refreshed]
    cases profile.avatarUrl.filter (!·.isEmpty) <;> exact { ha with linked := hlinked }
  | link profile token => exact { ha with linked := ⟨rfl, rfl⟩ }
  | disconnect => exact { ha with linked := ⟨rfl, rfl⟩ }
  | update u =>
    simp only [onto, Account.update]
    split
    · exact { ha with limit := fun n hn => ⟨rfl, hw n hn⟩ }
    · exact { ha with limit := by simp [Account.revokeSpecial] }
    · split
      · next hspecial =>
        refine { ha with limit := fun n hn => ⟨hspecial, ?_⟩ }
        cases hlimit : u.usageLimit with
        | none => exact (ha.limit n (by simpa [hlimit] using hn)).2
        | some k => exact hw n (by simpa [hlimit] using hn)
      · exact { ha with }

end ProfileWrite

namespace Store

variable {s s' : Store} {fit : Review → Prop}

namespace Distinct

/-- Only the rows of accounts matter. -/
theorem of_accounts (hs : s.Distinct) (h : s'.accounts = s.accounts) : s'.Distinct := by
  unfold Distinct
  rw [h]
  exact hs

/-- An account can be saved whose e-mail address nobody else has. -/
theorem saveAccount {now : Moment} {a row : Account} (hs : s.Distinct)
    (hemail : ∀ x ∈ s.accounts, a.id ≠ x.id → foldEmail a.email ≠ foldEmail x.email)
    (h : s.saveAccount now a = .ok (row, s')) : s'.Distinct := by
  have hapart {x : Account} (hx : x ∈ s.accounts) (hne : a.id ≠ x.id) :
      ({ a with updatedAt := now } : Account).Apart x :=
    ⟨(saveAccount_apart h hx hne).1, hemail x hx hne, (saveAccount_apart h hx hne).2⟩
  obtain ⟨rfl, rfl⟩ := saveAccount_eq_ok h
  intro x hx y hy hne
  rcases mem_putRow hx with rfl | hx
  · rcases mem_putRow hy with rfl | hy
    · exact absurd rfl hne
    · exact hapart hy hne
  · rcases mem_putRow hy with rfl | hy
    · exact (hapart hx hne.symm).symm
    · exact hs x hx y hy hne

theorem recounted {now : Moment} (hs : s.Distinct) (h : Recounted now s s') : s'.Distinct := by
  obtain ⟨f, rfl, hf⟩ := h
  have hprofile (a : Account) : (f a).id = a.id ∧ (f a).username = a.username ∧
      (f a).email = a.email ∧ (f a).githubId = a.githubId := by
    rcases hf a with h | ⟨t, h, -⟩ <;> rw [h] <;> exact ⟨rfl, rfl, rfl, rfl⟩
  intro x hx y hy hne
  obtain ⟨a, ha, rfl⟩ := List.mem_map.mp hx
  obtain ⟨b, hb, rfl⟩ := List.mem_map.mp hy
  obtain ⟨hida, hnamea, hemaila, hgithuba⟩ := hprofile a
  obtain ⟨hidb, hnameb, hemailb, hgithubb⟩ := hprofile b
  rw [hida, hidb] at hne
  obtain ⟨hname, hemail, hgithub⟩ := hs a ha b hb hne
  constructor
  · rwa [hnamea, hnameb]
  · rwa [hemaila, hemailb]
  · rwa [hgithuba, hgithubb]

theorem step (hs : s.Distinct) (h : Step fit s s') : s'.Distinct := by
  cases h with
  | join _ hemail h =>
    exact hs.saveAccount (fun x hx _ => (email_ne_of_accountWithEmail hemail hx).symm) h
  | @write now a row s' w hrow _ h =>
    have ha := row?_mem (getAccount_eq_ok_iff.mp hrow).1
    refine hs.saveAccount (fun x hx hne => ?_) h
    rw [ProfileWrite.onto_id] at hne
    rw [ProfileWrite.onto_email]
    exact (hs a ha x hx hne).email
  | leave id =>
    exact fun a ha b hb => hs a (List.mem_filter.mp ha).1 b (List.mem_filter.mp hb).1
  | count now id hc => exact hs.recounted (recounted_run hc now id s)
  | keep _ h => exact hs.of_accounts (saveReview_accounts h)
  | drop id => exact hs.of_accounts rfl
  | resolve review finding flag => exact hs.of_accounts rfl

end Distinct

/-- A row that is saved is regular if the account was. -/
theorem regular_saveAccount {now : Moment} {a row : Account}
    (hs : ∀ x ∈ s.accounts, x.Regular) (ha : a.Regular)
    (h : s.saveAccount now a = .ok (row, s')) : ∀ x ∈ s'.accounts, x.Regular := by
  obtain ⟨rfl, rfl⟩ := saveAccount_eq_ok h
  intro x hx
  rcases mem_putRow hx with rfl | hx
  · exact { ha with }
  · exact hs x hx

theorem regular_step (hs : ∀ x ∈ s.accounts, x.Regular) (h : Step fit s s') :
    ∀ x ∈ s'.accounts, x.Regular := by
  cases h with
  | join hregular _ h => exact regular_saveAccount hs hregular h
  | @write now a row s' w hrow hw h =>
    have ha := row?_mem (getAccount_eq_ok_iff.mp hrow).1
    exact regular_saveAccount hs (ProfileWrite.onto_regular hw (hs a ha)) h
  | leave id => exact fun x hx => hs x (List.mem_filter.mp hx).1
  | @count now id c hc =>
    obtain ⟨f, hrun, hf⟩ := recounted_run hc now id s
    rw [hrun]
    intro x hx
    obtain ⟨a, ha, rfl⟩ := List.mem_map.mp hx
    rcases hf a with h | ⟨t, h, hreviews, hfiles⟩
    · rw [h]
      exact hs a ha
    · rw [h]
      have hregular := hs a ha
      exact { hregular with
        reviews := hreviews hregular.reviews, files := hfiles hregular.files }
  | keep _ h =>
    rw [saveReview_accounts h]
    exact hs
  | drop id => exact hs
  | resolve review finding flag => exact hs

theorem Orderly.step (hs : s.Orderly) (h : Step fit s s') : s'.Orderly :=
  ⟨regular_step hs.regular h, Distinct.step hs.apart h⟩

end Store

section

variable {allowed : Moment → Operation → Prop} {s : Store}

theorem ReachableBy.keyed (hs : ReachableBy allowed s) : s.Keyed :=
  hs.induct List.nodup_nil fun _ _ _ _ _ h _ hs => h.keyed hs

theorem ReachableBy.orderly (hs : ReachableBy allowed s) : s.Orderly :=
  hs.induct ⟨by simp, by simp⟩ fun _ _ _ _ _ h _ hs => hs.step h

theorem ReachableBy.pairwise_apart (hs : ReachableBy allowed s) :
    s.accounts.Pairwise Account.Apart :=
  (List.pairwise_map.mp hs.keyed).imp_of_mem fun {a b} ha hb hne => hs.orderly.apart a ha b hb hne

end

/-- In every store that the desk can get to, no two accounts share a name, an e-mail address in
whatever case its letters are, or a GitHub identity, and each account on its own is regular: the
name has a length that is allowed, the link to GitHub is whole or missing, only a special account
has a limit, which is then one at least, and the counters are not negative. -/
theorem Reachable.accounts_inOrder {s : Store} (hs : Reachable s) :
    (s.accounts.map (·.username)).Nodup ∧
    (s.accounts.map fun a => Store.foldEmail a.email).Nodup ∧
    (s.accounts.filterMap (·.githubId)).Nodup ∧
    ∀ a ∈ s.accounts,
      (1 ≤ a.username.length ∧ a.username.length ≤ 50) ∧
      (a.githubId.isSome ∧ a.githubUsername.isSome ∧ a.githubToken.isSome ∨
        a.githubId = none ∧ a.githubUsername = none ∧ a.githubToken = none) ∧
      (∀ n ∈ a.usageLimit, a.isSpecial = true ∧ 1 ≤ n) ∧
      0 ≤ a.reviewsCount ∧ 0 ≤ a.filesReviewed := by
  have hapart := hs.pairwise_apart
  refine ⟨?_, ?_, ?_, fun a ha => ?_⟩
  · exact List.pairwise_map.mpr (hapart.imp fun h => h.username)
  · exact List.pairwise_map.mpr (hapart.imp fun h => h.email)
  · refine List.pairwise_filterMap.mpr (hapart.imp fun {a b} h => ?_)
    rintro x hx y hy rfl
    exact h.github (by rw [hx]; rfl) (hx.trans hy.symm)
  · have hregular := hs.orderly.regular a ha
    refine ⟨hregular.username, ?_, hregular.limit, hregular.reviews, hregular.files⟩
    have hlinked := hregular.linked
    cases hid : a.githubId with
    | none => simpa [hid] using hlinked
    | some id => simpa [hid] using hlinked

/-- Two accounts, one of them special; a third one under the address of the first is refused. -/
def twoAccounts : Store :=
  storeAfter [] [
    .register "ada" "ada@example.com" "password" none,
    .createAccount "bob" "bob@example.com" "password" none .user,
    .updateAccount (Uuid.ofNat 4) [("isSpecialUser", .bool true), ("usageLimit", .int 5)],
    .register "eve" "ADA@Example.com" "password" none]

theorem twoAccounts_inOrder :
    twoAccounts.accounts.map (fun a => (a.username, a.usageLimit)) =
        [("ada", none), ("bob", some 5)] ∧
      (twoAccounts.accounts.map fun a => Store.foldEmail a.email).Nodup ∧
      ∀ a ∈ twoAccounts.accounts, ∀ n ∈ a.usageLimit, a.isSpecial = true ∧ 1 ≤ n := by
  obtain ⟨-, hemail, -, hrows⟩ :=
    Reachable.accounts_inOrder (reachable_storeAfter [] _ : Reachable twoAccounts)
  exact ⟨by decide +kernel, hemail, fun a ha => (hrows a ha).2.2.1⟩

end ReviewDesk
