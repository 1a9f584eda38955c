import ReviewDesk.Proofs.Upserts
import ReviewDesk.Proofs.Usernames
import ReviewDesk.Proofs.Visits

/-!
# Signing in with GitHub

Whoever signs in with GitHub gets the account that has the identity of the profile, or a new one if
there is none. That account is all that changes in the store. The account of an identity stays the
same from one sign-in to the next, whatever GitHub says about the login or the e-mail address and
whatever is done in between, as long as the link is spared.
-/
namespace ReviewDesk

/-- An account that can be loaded, written back and signed in with. -/
def Account.Usable (a : Account) : Prop :=
  a.isActive = true ∧ Store.fitsAccount a = true ∧ a.Readable

instance (a : Account) : Decidable a.Usable := inferInstanceAs (Decidable (_ ∧ _))

/-- Tokens that are issued now expire at a time of the calendar. -/
def Settings.KeepsDates (settings : Settings) (now : Moment) : Prop :=
  (-999999999 ≤ settings.tokenLifetime / 86400 ∧ settings.tokenLifetime / 86400 ≤ 999999999) ∧
    (now.addMicroseconds (settings.tokenLifetime * Moment.second)).inRange = true

instance (settings : Settings) (now : Moment) : Decidable (settings.KeepsDates now) :=
  inferInstanceAs (Decidable (_ ∧ _))

namespace Store

variable {s s' : Store}

/-- What a sign-in with a profile makes of a store. -/
structure SignedIn (now : Moment) (profile : GitHub.Profile) (token : String) (user : Account)
    (s s' : Store) : Prop where
  stored : s'.getAccount user.id = .ok (some user)
  linked : user.githubId = some profile.id
  others : s'.accounts.filter (·.id != user.id) = s.accounts.filter (·.id != user.id)
  reviews : s'.reviews = s.reviews
  /-- If the identity is known, its account is brought up to date. -/
  known : ∀ a ∈ s.accounts, a.githubId = some profile.id →
    s'.accounts.map (·.id) = s.accounts.map (·.id) ∧
    user = { a with
      githubUsername := some profile.login
      githubToken := some token
      avatarUrl := user.avatarUrl
      lastLoginAt := some now
      updatedAt := now }
  /-- If not, one account is added, without any privilege. -/
  new : (∀ a ∈ s.accounts, a.githubId ≠ some profile.id) →
    s'.accounts = s.accounts ++ [user] ∧ user.isAdmin = false ∧ user.isSpecial = false ∧
    user.tier = .free ∧ ∀ a ∈ s.accounts, foldEmail a.email ≠ foldEmail user.email

/-- There is room in a store for an account of somebody who is not known yet. -/
structure HasRoomFor (profile : GitHub.Profile) (s : Store) : Prop where
  readable : ∀ a ∈ s.accounts, a.Readable
  /-- The number behind a name is never longer than a name may be. -/
  few : s.accounts.length < 10 ^ 48
  fits : fits profile.id = true
  unknown : ∀ a ∈ s.accounts, a.githubId ≠ some profile.id
  address : ∀ a ∈ s.accounts, foldEmail a.email ≠ foldEmail (Desk.profileEmail profile)
  login : profile.login ≠ ""
  length : 3 ≤ (Desk.profileEmail profile).length ∧
    (Desk.profileEmail profile).length ≤ Account.emailLimit

theorem putRow_new {a : Account} {rows : List Account} (h : ∀ b ∈ rows, b.id ≠ a.id) :
    putRow a rows = rows ++ [a] := by
  induction rows with
  | nil => rfl
  | cons b rest ih =>
    obtain ⟨hb, hrest⟩ := List.forall_mem_cons.mp h
    simp [putRow, hb, ih hrest]

theorem ids_putRow {a : Account} {rows : List Account} (h : a.id ∈ rows.map (·.id)) :
    (putRow a rows).map (·.id) = rows.map (·.id) := by
  induction rows with
  | nil => cases h
  | cons b rest ih =>
    by_cases hb : b.id = a.id
    · simp [putRow, hb]
    · have hrest : a.id ∈ rest.map (·.id) := by simpa [Ne.symm hb] using h
      simp [putRow, hb, ih hrest]

theorem github_ne_of_accountWithGitHub {github : Int}
    (h : s.accountWithGitHub github = .ok none) : ∀ a ∈ s.accounts, a.githubId ≠ some github := by
  intro a ha hlinked
  unfold accountWithGitHub at h
  split at h
  · exact List.filter_eq_nil_iff.mp (loadFirst_eq_none h) a ha (by simp [hlinked])
  · cases h

theorem accountWithGitHub_eq_none {github : Int} (hfits : fits github = true)
    (h : ∀ a ∈ s.accounts, a.githubId ≠ some github) :
    s.accountWithGitHub github = .ok none := by
  have hrows : s.accounts.filter (·.githubId == some github) = [] :=
    List.filter_eq_nil_iff.mpr fun a ha hlinked => h a ha (eq_of_beq hlinked)
  rw [accountWithGitHub, if_pos hfits, hrows]
  rfl

theorem accountWithEmail_eq_none {email : String}
    (h : ∀ a ∈ s.accounts, foldEmail a.email ≠ foldEmail email) :
    s.accountWithEmail email = .ok none := by
  have hrows : s.accounts.filter (fun a => foldEmail a.email == foldEmail email) = [] :=
    List.filter_eq_nil_iff.mpr fun a ha hsame => h a ha (eq_of_beq hsame)
  rw [accountWithEmail, hrows]
  rfl

theorem mem_of_getAccount {a : Account} (h : s.getAccount a.id = .ok (some a)) : a ∈ s.accounts :=
  row?_mem (getAccount_eq_ok_iff.mp h).1

theorem linked_of_mem (hs : s.Keyed) {a : Account} (ha : a ∈ s.accounts) {github : Int}
    (hlinked : a.githubId = some github) : s.Linked a.id github :=
  ⟨a, row?_of_mem hs ha, hlinked⟩

/-- A usable account is found under its GitHub identity. -/
theorem accountWithGitHub_of_row (hkeyed : s.Keyed) (hdistinct : s.Distinct) {a : Account}
    (ha : a ∈ s.accounts) (husable : a.Usable) {github : Int}
    (hlinked : a.githubId = some github) : s.accountWithGitHub github = .ok (some a) := by
  obtain ⟨-, hfits, hreadable⟩ := husable
  rw [accountWithGitHub, if_pos (((fitsAccount_iff a).mp hfits).1 github hlinked)]
  have hmem : a ∈ s.accounts.filter (·.githubId == some github) :=
    List.mem_filter.mpr ⟨ha, by simp [hlinked]⟩
  cases hrows : s.accounts.filter (·.githubId == some github) with
  | nil =>
    rw [hrows] at hmem
    cases hmem
  | cons b rest =>
    obtain ⟨hb, hsame⟩ := List.mem_filter.mp (hrows ▸ List.mem_cons_self : b ∈ _)
    have hid : b.id = a.id := by
      by_contra hne
      have hboth : b.githubId = a.githubId := (eq_of_beq hsame).trans hlinked.symm
      exact (hdistinct b hb a ha hne).github (by simp [hboth, hlinked]) hboth
    obtain rfl := List.inj_on_of_nodup_map hkeyed hb ha hid
    rw [loadFirst, loadRow_of_readable hreadable]
    rfl

/-- The copy of a row can be written that differs in nothing that is unique. -/
theorem saveAccount_of_row (hdistinct : s.Distinct) {a copy : Account} (ha : a ∈ s.accounts)
    (hfits : fitsAccount copy = true) (hsame : copy.id = a.id ∧ copy.username = a.username ∧
      copy.email = a.email ∧ copy.githubId = a.githubId) (now : Moment) :
    ∃ row s', s.saveAccount now copy = .ok (row, s') := by
  refine ⟨_, _, (saveAccount_eq now hfits).2 ?_⟩
  exact free_of_others hsame.1 hsame.2 rfl (hdistinct.free ha)

end Store

/-- What a sign-in with GitHub may change about an account. -/
theorem ProfileWrite.onto_gitHubSignIn (now : Moment) (profile : GitHub.Profile) (token : String)
    (a : Account) : ∃ avatarUrl, (gitHubSignIn now profile token).onto a = { a with
      githubUsername := some profile.login
      githubToken := some token
      avatarUrl
      lastLoginAt := some now } := by
  simp only [onto, Desk.refreshed]
  cases profile.avatarUrl.filter (!·.isEmpty) with
  | none => exact ⟨a.avatarUrl, rfl⟩
  | some url => exact ⟨some url, rfl⟩

namespace Desk

variable {σ : Type} {settings : Settings} {d : Desk σ} {code token : String}
  {profile : GitHub.Profile} {copy row : Account} {s : Store}

/-- Nobody gets into an account other than the one that has the identity. -/
theorem Entrant.id_eq (hcopy : Entrant d profile token copy) {a : Account}
    (ha : a ∈ d.store.accounts) (hlinked : a.githubId = some profile.id)
    (hsave : d.store.saveAccount d.now copy = .ok (row, s)) : copy.id = a.id := by
  cases hcopy with
  | @known b hrow hsame hactive =>
    by_contra hne
    have hgithub := (ProfileWrite.onto_githubId (.gitHubSignIn d.now profile token) b).trans hsame
    exact (Store.saveAccount_apart hsave ha hne).2 (by simp [hgithub]) (hgithub.trans hlinked.symm)
  | new hnobody => exact absurd hlinked (Store.github_ne_of_accountWithGitHub hnobody a ha)

/-- The store after somebody was let in. -/
theorem Entrant.signedIn (hcopy : Entrant d profile token copy) (hkeyed : d.store.Keyed)
    (hnew : ∀ a ∈ d.store.accounts, a.id ≠ d.ids d.used)
    (hsave : d.store.saveAccount d.now copy = .ok (row, s)) :
    Store.SignedIn d.now profile token row d.store s := by
  have hwritten := Store.row?_saveAccount hsave copy.id
  rw [if_pos rfl] at hwritten
  have hsame : ∀ b ∈ d.store.accounts, b.githubId = some profile.id → copy.id = b.id :=
    fun b hb hlinked => hcopy.id_eq hb hlinked hsave
  obtain ⟨rfl, rfl⟩ := Store.saveAccount_eq_ok hsave
  have hothers := Store.filter_putRow_others { copy with updatedAt := d.now } d.store.accounts
  cases hcopy with
  | @known a hrow hlinked hactive =>
    obtain ⟨avatarUrl, honto⟩ := ProfileWrite.onto_gitHubSignIn d.now profile token a
    rw [honto] at hwritten hsame hothers ⊢
    obtain ⟨-, hreviews, hfiles⟩ := Store.getAccount_eq_ok_iff.mp hrow
    have ha := Store.mem_of_getAccount hrow
    have hthere : a.id ∈ d.store.accounts.map (·.id) := List.mem_map_of_mem ha
    refine ⟨Store.getAccount_eq_ok_iff.mpr ⟨hwritten, hreviews, hfiles⟩, hlinked, hothers, rfl,
      fun b hb hb' => ⟨Store.ids_putRow hthere, ?_⟩, fun hnobody => absurd hlinked (hnobody a ha)⟩
    obtain rfl := List.inj_on_of_nodup_map hkeyed ha hb (hsame b hb hb')
    rfl
  | @new username made hnobody hemail hmade =>
    obtain ⟨-, -, rfl⟩ := Account.make_eq_good_iff.mp hmade
    have hzero : Store.fits 0 = true ∧ (0 : Int) ≤ 0 := by decide
    refine ⟨Store.getAccount_eq_ok_iff.mpr ⟨hwritten, hzero, hzero⟩, rfl, hothers, rfl,
      fun b hb hb' => absurd hb' (Store.github_ne_of_accountWithGitHub hnobody b hb),
      fun _ => ⟨Store.putRow_new hnew, rfl, rfl, rfl, ?_⟩⟩
    exact fun b hb => Store.email_ne_of_accountWithEmail hemail hb

/-- Whoever signs in with a GitHub identity gets the account with an identifier and no other, and
does get it if the account is usable. -/
def Recognizes (σ : Type) (github : Int) (id : Uuid) (s : Store) : Prop :=
  ∀ (settings : Settings) (code : String) (d : Desk σ) (token : String) (profile : GitHub.Profile)
    (d₁ : Desk σ), d.store = s → profile.id = github →
    outcome (exchangeCode settings code) d = (.ok (token, profile), d₁) →
    (∀ user bearer d', outcome (gitHubLogin settings code) d = (.ok (user, bearer), d') →
      user.id = id) ∧
    ((∀ a, s.row? id = some a → a.Usable) → settings.KeepsDates d.now →
      ∃ user bearer d', outcome (gitHubLogin settings code) d = (.ok (user, bearer), d'))

/-- A sign-in that succeeds is into the account that has the identity. -/
theorem id_of_gitHubLogin {d₁ d' : Desk σ} {a user : Account} {bearer : String}
    (hkeyed : d.store.Keyed) (ha : a ∈ d.store.accounts) (hlinked : a.githubId = some profile.id)
    (hexchange : outcome (exchangeCode settings code) d = (.ok (token, profile), d₁))
    (h : outcome (gitHubLogin settings code) d = (.ok (user, bearer), d')) : user.id = a.id := by
  rcases gitHubLogin_enters settings d code hkeyed with
    ⟨failure, d'', hfails, -⟩ | ⟨token', profile', d₂, copy, row, d'', hgiven, hcopy, hsave, hends⟩
  · rw [hfails] at h
    cases h
  rw [hexchange, Prod.mk.injEq, Except.ok.injEq, Prod.mk.injEq] at hgiven
  obtain ⟨⟨rfl, rfl⟩, -⟩ := hgiven
  have hid := hcopy.id_eq ha hlinked hsave
  obtain ⟨rfl, -⟩ := Store.saveAccount_eq_ok hsave
  rw [hends] at h
  cases hissue : Token.issue settings.secret settings.tokenLifetime d.now
      { copy with updatedAt := d.now } with
  | error fault => simp [hissue, Except.mapError, Except.map] at h
  | ok bearer' =>
    simp only [hissue, Except.mapError, Except.map, Prod.mk.injEq, Except.ok.injEq] at h
    obtain ⟨⟨rfl, -⟩, -⟩ := h
    exact hid

/-- Whoever has a copy that can be written gets a token. -/
theorem exists_letIn (hdates : settings.KeepsDates d.now)
    (hsave : d.store.saveAccount d.now copy = .ok (row, s)) :
    ∃ bearer, outcome (letIn settings copy) d = (.ok (row, bearer), { d with store := s }) := by
  obtain ⟨bearer, hissue⟩ := Token.exists_issue settings.secret row hdates.1 hdates.2
  refine ⟨bearer, ?_⟩
  rw [outcome_letIn_ok settings d hsave, hissue]
  rfl

theorem exists_known {d₁ : Desk σ} {a : Account} (hkeyed : d.store.Keyed)
    (hdistinct : d.store.Distinct) (ha : a ∈ d.store.accounts)
    (hlinked : a.githubId = some profile.id) (husable : a.Usable)
    (hdates : settings.KeepsDates d.now)
    (hexchange : outcome (exchangeCode settings code) d = (.ok (token, profile), d₁)) :
    ∃ user bearer d', outcome (gitHubLogin settings code) d = (.ok (user, bearer), d') := by
  obtain ⟨github, rfl⟩ := (Asks.exchangeCode settings code).desk hexchange
  have hfound := Store.accountWithGitHub_of_row hkeyed hdistinct ha husable hlinked
  have hlogin := outcome_gitHubLogin_known hexchange hfound husable.1
  obtain ⟨avatarUrl, honto⟩ := ProfileWrite.onto_gitHubSignIn d.now profile token a
  have hfits : Store.fitsAccount ((ProfileWrite.gitHubSignIn d.now profile token).onto a) =
      true := by
    rw [honto]
    exact husable.2.1
  obtain ⟨row, s', hsave⟩ := Store.saveAccount_of_row hdistinct ha hfits
    (by rw [honto]; exact ⟨rfl, rfl, rfl, rfl⟩) d.now
  obtain ⟨bearer, hends⟩ := exists_letIn (d := { d with github }) hdates hsave
  exact ⟨row, bearer, _, hlogin.trans hends⟩

theorem recognizes_of_linked (hkeyed : s.Keyed) (hdistinct : s.Distinct) {a : Account}
    (ha : a ∈ s.accounts) {github : Int} (hlinked : a.githubId = some github) :
    Recognizes σ github a.id s := by
  rintro settings code d token profile d₁ rfl rfl hexchange
  refine ⟨fun user bearer d' h => id_of_gitHubLogin hkeyed ha hlinked hexchange h,
    fun husable hdates => ?_⟩
  have hrow := husable a (Store.row?_of_mem hkeyed ha)
  exact exists_known hkeyed hdistinct ha hlinked hrow hdates hexchange

/-! ## Newcomers -/

theorem exists_saved_newcomer (token : String) (made : Account) (hroom : s.HasRoomFor profile)
    (hfree : ∀ b ∈ s.accounts, b.username ≠ made.username)
    (hemail : made.email = profileEmail profile)
    (hblank : made.usageLimit = none ∧ made.reviewsCount = 0 ∧ made.filesReviewed = 0)
    (now : Moment) :
    ∃ row s', s.saveAccount now ((newcomer profile token made).recordLogin now) =
      .ok (row, s') := by
  obtain ⟨hlimit, hreviews, hfiles⟩ := hblank
  have hzero : Store.fits 0 = true := by decide
  refine ⟨_, _, (Store.saveAccount_eq now ((Store.fitsAccount_iff _).mpr ⟨?_, ?_, ?_, ?_⟩)).2 ?_⟩
  · rintro g ⟨⟩
    exact hroom.fits
  · intro n (hn : n ∈ made.usageLimit)
    simp [hlimit] at hn
  · exact (congrArg Store.fits hreviews).trans hzero
  · exact (congrArg Store.fits hfiles).trans hzero
  · rintro ⟨b, hb, -, hclash | hclash | ⟨g, ⟨⟩, hclash⟩⟩
    · exact hfree b hb hclash
    · exact hroom.address b hb (congrArg Store.foldEmail (hclash.trans hemail))
    · exact hroom.unknown b hb hclash

/-- A newcomer is let in if there is room. -/
theorem exists_newcomer {d₁ : Desk σ} (hroom : d.store.HasRoomFor profile)
    (hdates : settings.KeepsDates d.now)
    (hexchange : outcome (exchangeCode settings code) d = (.ok (token, profile), d₁)) :
    ∃ user bearer d', outcome (gitHubLogin settings code) d = (.ok (user, bearer), d') := by
  obtain ⟨github, rfl⟩ := (Asks.exchangeCode settings code).desk hexchange
  have hnobody := Store.accountWithGitHub_eq_none hroom.fits hroom.unknown
  have hemail := Store.accountWithEmail_eq_none hroom.address
  obtain ⟨k, hk, hname, hfree⟩ := availableUsername_free hroom.readable profile.login
  have hlength := length_candidate hroom.login (k := k) (by have := hroom.few; omega)
  let made : Account :=
    { id := d.ids d.used
      username := candidate profile.login k
      email := profileEmail profile
      createdAt := d.now
      updatedAt := d.now }
  have hgood : Account.make (d.ids d.used) d.now (candidate profile.login k)
      (profileEmail profile) = .good made :=
    Account.make_eq_good_iff.mpr ⟨hlength, hroom.length, rfl⟩
  have hmade := outcome_accountOfProfile_free { d with github } token hemail
  simp only [hname, hgood] at hmade
  have hlogin := (outcome_gitHubLogin_found hexchange hnobody).trans (outcome_bind_ok hmade)
  obtain ⟨row, s', hsave⟩ :=
    exists_saved_newcomer token made hroom hfree rfl ⟨rfl, rfl, rfl⟩ d.now
  obtain ⟨bearer, hends⟩ := exists_letIn (d := { d with github, used := d.used + 1 }) hdates hsave
  exact ⟨row, bearer, _, hlogin.trans hends⟩

/-- Signing in with GitHub fails and leaves the store as it is, or gives the account that has the
identity of the profile, as it is stored then; nothing else changes. The account is the one that
had the identity before, brought up to date, or a new one. From then on it is the account of that
identity, through all that spares the link; and so is every account that has one already. Whoever
is not known yet is let in if there is room. -/
theorem gitHubLogin_one_account (settings : Settings) (code : String) (d : Desk σ)
    (hkeyed : d.store.Keyed) (hdistinct : d.store.Distinct)
    (hnew : ∀ a ∈ d.store.accounts, a.id ≠ d.ids d.used) (hdates : settings.KeepsDates d.now) :
    ((∃ failure d', outcome (gitHubLogin settings code) d = (.error failure, d') ∧
        d'.store = d.store) ∨
      ∃ user bearer d' token profile d₁,
        outcome (gitHubLogin settings code) d = (.ok (user, bearer), d') ∧
        outcome (exchangeCode settings code) d = (.ok (token, profile), d₁) ∧
        Store.SignedIn d.now profile token user d.store d'.store ∧
        ∀ visits : List (Visit σ), (∀ v ∈ visits, v.Spares user.id profile.id) →
          Recognizes σ profile.id user.id (Visit.runAll visits d'.store)) ∧
    (∀ a ∈ d.store.accounts, ∀ github ∈ a.githubId, Recognizes σ github a.id d.store) ∧
    ∀ token profile d₁, outcome (exchangeCode settings code) d = (.ok (token, profile), d₁) →
      d.store.HasRoomFor profile →
        ∃ user bearer d', outcome (gitHubLogin settings code) d = (.ok (user, bearer), d') := by
  refine ⟨?_, fun a ha github hlinked => recognizes_of_linked hkeyed hdistinct ha hlinked,
    fun token profile d₁ hexchange hroom => exists_newcomer hroom hdates hexchange⟩
  rcases gitHubLogin_enters settings d code hkeyed with
    hfails | ⟨token, profile, d₁, copy, user, d', hexchange, hcopy, hsave, hends⟩
  · exact .inl hfails
  right
  obtain ⟨bearer, hissue⟩ := Token.exists_issue settings.secret user hdates.1 hdates.2
  rw [hissue] at hends
  have hsigned := hcopy.signedIn hkeyed hnew hsave
  refine ⟨user, bearer, d', token, profile, d₁, hends, hexchange, hsigned, fun visits hspare => ?_⟩
  have hmoves : Moves (Store.Step fun _ => False) (gitHubLogin settings code) d :=
    gitHubLogin_moves settings code hkeyed
  have hkeyed' := moves_keep hmoves (fun _ _ h => h.keyed) hkeyed
  have hdistinct' := moves_keep hmoves (fun _ _ h hs => Store.Distinct.step hs h) hdistinct
  rw [hends] at hkeyed' hdistinct'
  obtain ⟨hkeyedEnd, hdistinctEnd, row, hrow, hlinked⟩ :=
    Visit.linked_runAll hspare hkeyed' hdistinct'
      (Store.linked_of_mem hkeyed' (Store.mem_of_getAccount hsigned.stored) hsigned.linked)
  have hlast :=
    recognizes_of_linked (σ := σ) hkeyedEnd hdistinctEnd (Store.row?_mem hrow) hlinked
  rwa [Store.row?_id hrow] at hlast

section Example

def signInSettings : Settings where
  secret := "secret"
  githubId := some "desk"
  githubSecret := some "secret"

/-- A desk with one account, where somebody with a login is about to sign in with GitHub. -/
def signInDesk (login : String) (next : Uuid) : Desk Model.Script :=
  let reply (fields : List (String × Json)) : Http.Reply :=
    .response { status := 200, body := Text.utf8Bytes (Json.write .compact (.obj fields)) }
  { newDesk [] with
    store := ⟨[ProfileWrite.signingIn], []⟩
    ids := fun _ => next
    github := { replies :=
      [reply [("access_token", .str "token")], reply [("id", .int 7), ("login", .str login)]] } }

/-- The same person comes back under another login. -/
def renamedVisit : Visit Model.Script where
  model := Model.Script.model "script"
  settings := signInSettings
  desk := signInDesk "lovelace" (Uuid.ofNat 3)
  op := .gitHubLogin "abc"

/-- A newcomer whose login is taken gets an account with a number, and keeps it after signing in
under another login. -/
theorem gitHubLogin_one_account_newcomer :
    ∃ user bearer d', outcome (gitHubLogin signInSettings "abc") (signInDesk "ada" (Uuid.ofNat 2)) =
        (.ok (user, bearer), d') ∧
      d'.store.accounts.map (·.username) = ["ada", "ada1"] ∧
      user.id = Uuid.ofNat 2 ∧ user.githubId = some 7 ∧
      Recognizes Model.Script 7 user.id (Visit.runAll [renamedVisit] d'.store) := by
  have hstore : ((outcome (gitHubLogin signInSettings "abc")
      (signInDesk "ada" (Uuid.ofNat 2))).2.store.accounts.map
        fun a => (a.username, a.id, a.githubId)) =
      [("ada", ProfileWrite.signingIn.id, none), ("ada1", Uuid.ofNat 2, some 7)] := by
    decide +kernel
  have hone : ∀ a ∈ (signInDesk "ada" (Uuid.ofNat 2)).store.accounts, a = ProfileWrite.signingIn :=
    fun _ => List.mem_singleton.mp
  rcases (gitHubLogin_one_account signInSettings "abc" (signInDesk "ada" (Uuid.ofNat 2))
      (List.nodup_singleton _) (fun a ha b hb hne => absurd (by rw [hone a ha, hone b hb]) hne)
      (fun a ha => by rw [hone a ha]; decide) (by decide)).1 with
    ⟨failure, d', houtcome, hsame⟩ |
    ⟨user, bearer, d', token, profile, d₁, houtcome, -, hsigned, hlater⟩
  · rw [houtcome] at hstore
    dsimp only at hstore
    rw [hsame] at hstore
    exact absurd (congrArg List.length hstore) (by decide)
  · rw [houtcome] at hstore
    dsimp only at hstore
    have hnames := congrArg (List.map Prod.fst) hstore
    rw [List.map_map] at hnames
    have huser : (user.username, user.id, user.githubId) ∈
        d'.store.accounts.map fun a => (a.username, a.id, a.githubId) :=
      List.mem_map_of_mem (Store.mem_of_getAccount hsigned.stored)
    rw [hstore, hsigned.linked] at huser
    obtain ⟨-, hid, hgithub⟩ : user.username = "ada1" ∧ user.id = Uuid.ofNat 2 ∧
        profile.id = 7 := by
      simpa using huser
    rw [← hgithub]
    refine ⟨user, bearer, d', houtcome, hnames, hid, hsigned.linked, ?_⟩
    refine hlater _ fun v hv => ?_
    obtain rfl := List.mem_singleton.mp hv
    exact ⟨fun k _ => by rw [hid]; exact (by decide : Uuid.ofNat 3 ≠ Uuid.ofNat 2), trivial⟩

end Example

end Desk

end ReviewDesk
