import ReviewDesk.Proofs.AccountRules

/-!
# Links to GitHub that last

A `Visit` is an operation at a desk of its own: at any time, with any replies from GitHub and any
identifiers to give out. A visit spares the link of an account to GitHub unless it removes the
account, disconnects it or links it to somebody else. The main statement is that visits which spare
a link leave it, however many there are.
-/
namespace ReviewDesk

namespace Store

variable {s s' : Store} {id : Uuid} {github : Int}

/-- The account with an identifier has a GitHub identity. -/
def Linked (id : Uuid) (github : Int) (s : Store) : Prop :=
  ∃ row, s.row? id = some row ∧ row.githubId = some github

namespace Linked

theorem of_accounts (hs : s.Linked id github) (h : s'.accounts = s.accounts) :
    s'.Linked id github := by
  unfold Linked row?
  rw [h]
  exact hs

/-- Only the row of the account itself matters when a row is written. -/
theorem saveAccount {now : Moment} {a row : Account} (hs : s.Linked id github)
    (ha : a.id = id → a.githubId = some github) (h : s.saveAccount now a = .ok (row, s')) :
    s'.Linked id github := by
  unfold Linked
  rw [row?_saveAccount h]
  split
  · next hid => exact ⟨_, rfl, ha hid⟩
  · exact hs

theorem recounted {now : Moment} (hs : s.Linked id github) (h : Recounted now s s') :
    s'.Linked id github := by
  obtain ⟨row, hrow, hlinked⟩ := hs
  obtain ⟨f, rfl, hf⟩ := h
  have hsame (a : Account) : (f a).id = a.id ∧ (f a).githubId = a.githubId := by
    rcases hf a with h | ⟨t, h, -⟩ <;> rw [h] <;> exact ⟨rfl, rfl⟩
  have hid : (fun a : Account => a.id == id) ∘ f = fun a => a.id == id := by
    funext a
    rw [Function.comp_apply, (hsame a).1]
  refine ⟨f row, ?_, (hsame row).2.trans hlinked⟩
  unfold row? at hrow ⊢
  rw [List.find?_map, hid, hrow]
  rfl

theorem deleteAccount {other : Uuid} (hs : s.Linked id github) (hne : other ≠ id) :
    (s.deleteAccount other).Linked id github := by
  obtain ⟨row, hrow, hlinked⟩ := hs
  refine ⟨row, ?_, hlinked⟩
  unfold row? at hrow ⊢
  have hboth : (fun a : Account => a.id != other && a.id == id) = fun a => a.id == id := by
    funext a
    by_cases ha : a.id = id
    · simp [ha, hne.symm]
    · simp [ha]
  rw [Store.deleteAccount, List.find?_filter, ← hrow]
  simp only [Bool.decide_and, Bool.decide_eq_true, hboth]

end Linked

/-- A link that was there is still there. -/
def KeepsLink (id : Uuid) (github : Int) (s s' : Store) : Prop :=
  s.Linked id github → s'.Linked id github

/-- Making a review leaves every link. -/
theorem Making.keepsLink {owner review : Uuid} {fit : Review → Prop}
    (h : Making owner review fit s s') : KeepsLink id github s s' := by
  intro hs
  cases h with
  | count now hc => exact hs.recounted (recounted_run hc now owner s)
  | keep _ _ _ h => exact hs.of_accounts (saveReview_accounts h)

end Store

/-- A change of a profile that is neither a link nor its end leaves the GitHub identity. -/
theorem ProfileWrite.onto_githubId (w : ProfileWrite) (a : Account) :
    (w.onto a).githubId = match w with
      | link profile _ => some profile.id
      | disconnect => none
      | _ => a.githubId := by
  cases w with
  | gitHubSignIn now profile token =>
    simp only [onto, Desk.refreshed]
    cases profile.avatarUrl.filter (!·.isEmpty) <;> rfl
  | update u =>
    simp only [onto, Account.update]
    split
    · rfl
    · rfl
    · split <;> rfl
  | _ => rfl

namespace Desk

open Store (KeepsLink)

variable {σ α : Type} {id : Uuid} {github : Int} {d : Desk σ}

/-- A copy of a row is written without harm to the link of an account if it is the row of another
account or has the identity still. -/
theorem keepsLink_of_writes {copy : ProfileWrite → Account → Prop} {t : Task σ α}
    (h : Writes copy d (outcome t d).2.store)
    (hcopy : ∀ w a, copy w a → d.store.getAccount a.id = .ok (some a) ∧
      (a.id = id → a.githubId = some github → (w.onto a).githubId = some github)) :
    Moves (KeepsLink id github) t d := by
  rcases h with hsame | ⟨w, a, row, hwa, hsave⟩
  · exact moves_of_same hsame
  obtain ⟨hget, hkept⟩ := hcopy w a hwa
  refine moves_of_step fun hd => hd.saveAccount (fun hid => ?_) hsave
  rw [ProfileWrite.onto_id] at hid
  obtain ⟨row', hrow', hlinked⟩ := hd
  have hrow := (Store.getAccount_eq_ok_iff.mp hget).1
  rw [hid, hrow', Option.some.injEq] at hrow
  exact hkept hid (hrow ▸ hlinked)

theorem addAccount_keepsLink (settings : Settings) (username email password : String)
    (fullName : Option String) {finish : Account → Account}
    (hfinish : ∀ a, (finish a).id = a.id) (hnew : ∀ k, d.used ≤ k → d.ids k ≠ id) :
    Moves (KeepsLink id github) (addAccount settings username email password fullName finish)
      d := by
  refine addAccount_joins settings _ _ _ _ _ fun hash made row s _ hmade hsave => ?_
  obtain ⟨-, -, rfl⟩ := Account.make_eq_good_iff.mp hmade
  refine fun hd => hd.saveAccount (fun hid => ?_) hsave
  rw [hfinish] at hid
  exact absurd hid (hnew _ (Nat.le_succ _))

theorem gitHubLogin_keepsLink (settings : Settings) (code : String) (hkeyed : d.store.Keyed)
    (hnew : ∀ k, d.used ≤ k → d.ids k ≠ id) :
    Moves (KeepsLink id github) (gitHubLogin settings code) d := by
  rcases gitHubLogin_enters settings d code hkeyed with
    ⟨failure, d', houtcome, hsame⟩ | ⟨token, profile, d₁, copy, row, d', -, hcopy, hsave, houtcome⟩
  · exact moves_of_same (by rw [houtcome]; exact hsame)
  cases hcopy with
  | @known a hrow hlinked hactive =>
    have hwrites : Writes (fun w b => w = .gitHubSignIn d.now profile token ∧ b = a) d
        (outcome (gitHubLogin settings code) d).2.store := by
      rw [houtcome]
      exact .inr ⟨_, a, row, ⟨rfl, rfl⟩, hsave⟩
    refine keepsLink_of_writes hwrites ?_
    rintro w b ⟨rfl, rfl⟩
    exact ⟨hrow, fun _ h => (ProfileWrite.onto_githubId _ _).trans h⟩
  | @new username made hnobody hemail hmade =>
    obtain ⟨-, -, rfl⟩ := Account.make_eq_good_iff.mp hmade
    apply moves_of_step
    rw [houtcome]
    exact fun hd => hd.saveAccount (fun hid => absurd hid (hnew _ (Nat.le_refl _))) hsave

end Desk

/-- An operation at a desk of its own. -/
structure Visit (σ : Type) where
  model : Model σ
  settings : Settings
  /-- The desk without its store, which is what the visit before has left. -/
  desk : Desk σ
  op : Operation

namespace Visit

variable {σ : Type}

def run (v : Visit σ) (s : Store) : Store :=
  (Desk.outcome (v.op.task v.model v.settings) { v.desk with store := s }).2.store

/-- The store after some visits in a row. -/
def runAll (visits : List (Visit σ)) (s : Store) : Store := visits.foldl (fun s v => v.run s) s

/-- The account with an identifier is not deleted, not disconnected from GitHub and not linked to
another identity there; and its identifier is not given out again. -/
def Spares (id : Uuid) (github : Int) (v : Visit σ) : Prop :=
  (∀ k, v.desk.used ≤ k → v.desk.ids k ≠ id) ∧
  match v.op with
  | .deleteAccount other => other ≠ id
  | .disconnectGitHub caller => caller ≠ id
  | .linkGitHub caller code => caller = id → ∀ token profile,
      (Desk.outcome (Desk.exchangeCode v.settings code) v.desk).1 = .ok (token, profile) →
        profile.id = github
  | _ => True

variable {v : Visit σ} {s : Store} {id : Uuid} {github : Int}

open Desk
open Store (KeepsLink)

/-- One visit that spares a link leaves it. -/
theorem Spares.linked_run (hv : v.Spares id github) (hkeyed : s.Keyed)
    (hs : s.Linked id github) : (v.run s).Linked id github := by
  obtain ⟨model, settings, desk, op⟩ := v
  obtain ⟨hnew, hop⟩ := hv
  dsimp only at hnew hop
  refine moves_keep (R := KeepsLink id github) (d := { desk with store := s }) ?_
    (fun _ _ h => h) hs
  cases op with
  | register username email password fullName =>
    refine moves_discard ?_
    unfold Desk.register
    exact addAccount_keepsLink settings _ _ _ _ (fun _ => rfl) hnew
  | createAccount username email password fullName role =>
    refine moves_discard ?_
    unfold Desk.createAccount
    exact addAccount_keepsLink settings _ _ _ _ (fun _ => rfl) hnew
  | createSpecial body =>
    refine moves_checked fun r _ => moves_discard ?_
    unfold Desk.createSpecial Desk.createAccount
    exact addAccount_keepsLink settings _ _ _ _ (fun _ => rfl) hnew
  | login username password =>
    refine moves_discard (keepsLink_of_writes (login_writes settings _ _ _ hkeyed) ?_)
    rintro w a ⟨rfl, hrow⟩
    exact ⟨hrow, fun _ h => h⟩
  | gitHubLogin code => exact moves_discard (gitHubLogin_keepsLink settings code hkeyed hnew)
  | linkGitHub caller code =>
    refine moves_accountOf fun a hid hrow => moves_discard ?_
    refine keepsLink_of_writes (linkGitHub_writes settings _ a code) ?_
    rintro w _ ⟨⟨profile, token, d', hexchange, rfl⟩, rfl⟩
    refine ⟨hrow, fun hsame _ => congrArg some ?_⟩
    refine hop (hid.symm.trans hsame) token profile ?_
    rw [(Asks.exchangeCode settings code).value_eq desk { desk with store := s } rfl, hexchange]
  | disconnectGitHub caller =>
    refine moves_accountOf fun a hid hrow => moves_discard ?_
    refine keepsLink_of_writes (disconnectGitHub_writes _ a) ?_
    rintro w _ ⟨rfl, rfl⟩
    exact ⟨hrow, fun hsame => absurd (hid.symm.trans hsame) hop⟩
  | updateAccount other body =>
    refine moves_checked fun u hu => moves_discard ?_
    refine keepsLink_of_writes (updateAccount_writes _ other u) ?_
    rintro w a ⟨rfl, hrow⟩
    have hid := Store.row?_id (Store.getAccount_eq_ok_iff.mp hrow).1
    exact ⟨hid ▸ hrow, fun _ h => (ProfileWrite.onto_githubId _ a).trans h⟩
  | deleteAccount other => exact deleteAccount_moves fun h => h.deleteAccount hop
  | resetUsage other =>
    exact moves_discard (resetUsage_moves fun now h =>
      h.recounted (Store.recounted_run (c := .reset) trivial now other s))
  | createReview caller title description files =>
    refine moves_accountOf fun a _ _ => moves_discard ?_
    exact (createReview_moves model a title description files _).lift (fun s => s) fun _ _ h =>
      h.keepsLink
  | resolveFinding caller review finding =>
    refine moves_accountOf fun a _ _ => moves_discard ?_
    exact resolveFinding_moves fun _ _ h => h.of_accounts rfl
  | deleteReview caller review =>
    exact moves_accountOf fun a _ _ => deleteReview_moves fun _ h => h.of_accounts rfl

/-- What every step keeps, every visit keeps. -/
theorem keeps_run {P : Store → Prop}
    (hstep : ∀ fit s s', Store.Step fit s s' → P s → P s') (hkeyed : s.Keyed) (hs : P s)
    (v : Visit σ) : P (v.run s) :=
  moves_keep (operation_moves (d := { v.desk with store := s }) v.model v.settings v.op hkeyed)
    (hstep _) hs

/-- Visits that spare a link leave it, and the accounts apart from each other. -/
theorem linked_runAll {visits : List (Visit σ)} (hvisits : ∀ v ∈ visits, v.Spares id github)
    (hkeyed : s.Keyed) (hdistinct : s.Distinct) (hs : s.Linked id github) :
    (runAll visits s).Keyed ∧ (runAll visits s).Distinct ∧ (runAll visits s).Linked id github := by
  induction visits generalizing s with
  | nil => exact ⟨hkeyed, hdistinct, hs⟩
  | cons v rest ih =>
    obtain ⟨hv, hrest⟩ := List.forall_mem_cons.mp hvisits
    exact ih hrest (keeps_run (fun _ _ _ h => h.keyed) hkeyed hkeyed v)
      (keeps_run (fun _ _ _ h hs => hs.step h) hkeyed hdistinct v) (hv.linked_run hkeyed hs)

end Visit

end ReviewDesk
