import ReviewDesk.Desk.Administration
import ReviewDesk.Desk.GitHubAccess
import ReviewDesk.Proofs.Tally
import ReviewDesk.Proofs.Task

/-!
# Writing a profile while reviews are counted

A change of a profile loads the row of an account, changes the copy and writes the whole row. The
counters of the row are written with it, as they were when the row was loaded. What was counted in
between is therefore lost; the main statement says when that shows.
-/
namespace ReviewDesk

/-- A change of a profile. -/
inductive ProfileWrite where
  | signIn (now : Moment)
  | gitHubSignIn (now : Moment) (profile : GitHub.Profile) (token : String)
  | link (profile : GitHub.Profile) (token : String)
  | disconnect
  | update (u : Account.Update)

namespace ProfileWrite

/-- The copy of the account that is written. -/
def onto : ProfileWrite → Account → Account
  | signIn now, a => a.recordLogin now
  | gitHubSignIn now profile token, a => (Desk.refreshed profile token a).recordLogin now
  | link profile token, a =>
    let a := a.connectGitHub profile.id profile.login token
    { a with avatarUrl := a.avatarUrl.or profile.avatarUrl }
  | disconnect, a => a.disconnectGitHub
  | update u, a => a.update u

/-- No change of a profile looks at the counters or touches them, and none changes the
identifier. -/
theorem onto_withTally (w : ProfileWrite) (t : Tally) (m : Moment) (a : Account) :
    w.onto (a.withTally t m) = (w.onto a).withTally t m ∧ (w.onto a).id = a.id := by
  cases w with
  | signIn now => exact ⟨rfl, rfl⟩
  | gitHubSignIn now profile token =>
    simp only [onto, Desk.refreshed]
    cases profile.avatarUrl.filter (!·.isEmpty) <;> exact ⟨rfl, rfl⟩
  | link profile token => exact ⟨rfl, rfl⟩
  | disconnect => exact ⟨rfl, rfl⟩
  | update u =>
    cases hspecial : u.isSpecial with
    | none =>
      cases hs : a.isSpecial <;> simp [onto, Account.update, Account.withTally, hspecial, hs]
    | some special =>
      cases special <;> simp [onto, Account.update, Account.withTally, Account.makeSpecial,
        Account.revokeSpecial, hspecial]

theorem onto_id (w : ProfileWrite) (a : Account) : (w.onto a).id = a.id :=
  (w.onto_withTally a.tally a.updatedAt a).2

open Tally (Change)
open Tally.Change (runAll applyAll)

/-- The store when a copy that was loaded earlier is written; none if it cannot be. -/
def written? (w : ProfileWrite) (id : Uuid) (now : Moment) (loaded s : Store) : Option Store :=
  match loaded.getAccount id with
  | .ok (some a) => (s.saveAccount now (w.onto a)).toOption.map (·.2)
  | _ => none

/-- A change of a profile with changes of the tally before, while and after it is made. -/
def interleave (w : ProfileWrite) (id : Uuid) (now : Moment)
    (before between after : List (Moment × Change)) (s : Store) : Store :=
  let loaded := runAll id s before
  let s := runAll id loaded between
  runAll id ((w.written? id now loaded s).getD s) after

variable {w : ProfileWrite} {now : Moment} {row : Account} {loaded s s' : Store} {t t' : Tally}

/-- The row that is written has the tally that was loaded. -/
theorem stands_of_written (hloaded : loaded.Stands row t) (hs : s.Stands row t')
    (h : w.written? row.id now loaded s = some s') : s'.Stands (w.onto row) t := by
  obtain ⟨-, m, hm⟩ := hloaded
  obtain ⟨hkeyed, -⟩ := hs
  unfold written? at h
  split at h
  · rename_i a ha
    obtain ⟨hrow, -⟩ := Store.getAccount_eq_ok_iff.mp ha
    have hcopy : a = row.withTally t m := Option.some.inj (hrow.symm.trans hm)
    cases hsave : s.saveAccount now (w.onto a) with
    | error fault => simp [hsave, Except.toOption] at h
    | ok result =>
      obtain ⟨kept, stored⟩ := result
      have hstored : stored = s' := by simpa [hsave, Except.toOption] using h
      subst hstored
      refine ⟨hkeyed.saveAccount hsave, now, ?_⟩
      rw [Store.row?_saveAccount hsave, hcopy, (w.onto_withTally t m row).1, onto_id]
      have hid : ((w.onto row).withTally t m).id = row.id := onto_id w row
      rw [if_pos hid]
      rfl
  · cases h

/-- What is counted in the end: a row that is written takes along the tally of the beginning and
loses what was counted meanwhile. -/
theorem tally_interleave (hs : s.Stands row t) (w : ProfileWrite) (now : Moment)
    (before between after : List (Moment × Change)) :
    (w.interleave row.id now before between after s).tally row.id = some
      (if (w.written? row.id now (runAll row.id s before)
          (runAll row.id (runAll row.id s before) between)).isSome then
        applyAll (w.onto row).admits (applyAll row.admits t before) after
      else applyAll row.admits t (before ++ between ++ after)) := by
  have hloaded := hs.runAll before
  have hbetween := hloaded.runAll between
  dsimp only [interleave]
  cases hw : w.written? row.id now (runAll row.id s before)
      (runAll row.id (runAll row.id s before) between) with
  | none =>
    simp only [Option.getD_none, Option.isSome_none, Bool.false_eq_true, ↓reduceIte,
      Tally.Change.applyAll_append]
    exact (hbetween.runAll after).tally_eq
  | some s' =>
    have hafter := ((stands_of_written hloaded hbetween hw).runAll after).tally_eq
    rw [onto_id] at hafter
    simp only [Option.getD_some, Option.isSome_some, ↓reduceIte]
    exact hafter

/-- A change of a profile loses nothing that is counted if and only if it is not written, or what
was counted meanwhile makes no difference to the tally in the end. -/
theorem tally_interleave_eq_iff {id : Uuid} (hs : s.Keyed) (hrow : s.row? id = some row)
    (w : ProfileWrite) (now : Moment) (before between after : List (Moment × Change)) :
    (w.interleave id now before between after s).tally id =
        (runAll id s (before ++ between ++ after)).tally id ↔
      ((w.written? id now (runAll id s before) (runAll id (runAll id s before) between)).isSome →
        applyAll (w.onto row).admits (applyAll row.admits row.tally before) after =
          applyAll row.admits row.tally (before ++ between ++ after)) := by
  obtain rfl := Store.row?_id hrow
  have hstands := Store.stands_of_row hs hrow
  rw [tally_interleave hstands, (hstands.runAll _).tally_eq, Option.some.injEq]
  split_ifs with hw
  · simp [hw]
  · simp [hw]

/-- An account that signs in while a review is counted. -/
def signingIn : Account where
  id := Uuid.ofNat 0x11111111111141118111111111111111
  username := "ada"
  email := "ada@example.com"
  createdAt := ⟨0, some 0⟩
  updatedAt := ⟨0, some 0⟩

/-- A review that is given back meanwhile makes no difference. -/
theorem tally_interleave_released :
    ((signIn ⟨3, some 0⟩).interleave signingIn.id ⟨4, some 0⟩ [(⟨1, some 0⟩, .reserve)]
        [(⟨2, some 0⟩, .reserve), (⟨3, some 0⟩, .release)] [(⟨5, some 0⟩, .addFiles 3)]
        ⟨[signingIn], []⟩).tally signingIn.id =
      (runAll signingIn.id ⟨[signingIn], []⟩ ([(⟨1, some 0⟩, .reserve)] ++
        [(⟨2, some 0⟩, .reserve), (⟨3, some 0⟩, .release)] ++
        [(⟨5, some 0⟩, .addFiles 3)])).tally signingIn.id :=
  (tally_interleave_eq_iff (by simp [Store.Keyed]) (by rfl) _ _ _ _ _).mpr fun _ => by
    decide +kernel

/-- A review that is counted while the account signs in is lost. -/
theorem tally_interleave_lost :
    ((signIn ⟨3, some 0⟩).interleave signingIn.id ⟨4, some 0⟩ [] [(⟨2, some 0⟩, .reserve)] []
        ⟨[signingIn], []⟩).tally signingIn.id = some ⟨0, 0⟩ ∧
      (runAll signingIn.id ⟨[signingIn], []⟩ [(⟨2, some 0⟩, .reserve)]).tally signingIn.id =
        some ⟨1, 0⟩ := by
  constructor <;> decide +kernel

end ProfileWrite

/-- Whoever is found under a GitHub identity has it. -/
theorem Store.linked_of_accountWithGitHub {s : Store} (hs : s.Keyed) {id : Int} {a : Account}
    (h : s.accountWithGitHub id = .ok (some a)) :
    a.githubId = some id ∧ s.getAccount a.id = .ok (some a) := by
  unfold accountWithGitHub at h
  split at h
  · have hmem := (List.mem_filter.mp (mem_of_loadFirst h).1).2
    exact ⟨eq_of_beq hmem, getAccount_of_loadFirst hs h⟩
  · cases h

namespace Desk

variable {σ α β : Type}

/-- A task that is between the desk and GitHub: what it gives depends on the replies alone, and it
uses up no more than them. -/
def Asks (t : Task σ α) : Prop :=
  ∃ reply : Http.Peer → Except Failure α × Http.Peer, ∀ d,
    outcome t d = ((reply d.github).1, { d with github := (reply d.github).2 })

namespace Asks

theorem pure (a : α) : Asks (pure a : Task σ α) := ⟨fun github => (.ok a, github), fun _ => rfl⟩

theorem fail (failure : Failure) : Asks (fail failure : Task σ α) :=
  ⟨fun github => (.error failure, github), fun _ => rfl⟩

theorem bind {t : Task σ α} {next : α → Task σ β} (ht : Asks t) (hnext : ∀ a, Asks (next a)) :
    Asks (t >>= next) := by
  obtain ⟨reply, hreply⟩ := ht
  choose further hfurther using hnext
  let both (github : Http.Peer) : Except Failure β × Http.Peer :=
    match reply github with
    | (.ok a, rest) => further a rest
    | (.error failure, rest) => (.error failure, rest)
  refine ⟨both, fun d => ?_⟩
  rw [outcome_bind, hreply]
  dsimp only [both]
  rcases reply d.github with ⟨_ | a, rest⟩
  · rfl
  · exact hfurther a _

theorem askGitHub (call : GitHub.Call α) : Asks (askGitHub call : Task σ α) :=
  ⟨fun github => ((call.run github).1.mapError .github, (call.run github).2),
    fun d => outcome_askGitHub d call⟩

theorem exchangeCode (settings : Settings) (code : String) :
    Asks (exchangeCode settings code : Task σ (String × GitHub.Profile)) := by
  unfold Desk.exchangeCode
  split
  · exact fail _
  · split
    · exact fail _
    · exact (askGitHub _).bind fun _ => (askGitHub _).bind fun _ => pure _

/-- Where GitHub replies the same, the same is given. -/
theorem value_eq {t : Task σ α} (ht : Asks t) (d d' : Desk σ) (h : d.github = d'.github) :
    (outcome t d).1 = (outcome t d').1 := by
  obtain ⟨reply, hreply⟩ := ht
  rw [hreply, hreply, h]

/-- The desk that such a task leaves. -/
theorem desk {t : Task σ α} (ht : Asks t) {d d' : Desk σ} {result : Except Failure α}
    (h : outcome t d = (result, d')) : ∃ github, d' = { d with github } := by
  obtain ⟨reply, hreply⟩ := ht
  rw [hreply, Prod.mk.injEq] at h
  exact ⟨_, h.2.symm⟩

end Asks

/-- A task that leaves the store and the clock alone. -/
def Reads (t : Task σ α) : Prop :=
  ∀ d, (outcome t d).2.store = d.store ∧ (outcome t d).2.now = d.now

namespace Reads

theorem pure (a : α) : Reads (pure a : Task σ α) := fun _ => ⟨rfl, rfl⟩

theorem fail (failure : Failure) : Reads (fail failure : Task σ α) := fun _ => ⟨rfl, rfl⟩

theorem clock : Reads (clock : Task σ Moment) := fun _ => ⟨rfl, rfl⟩

theorem bind {t : Task σ α} {next : α → Task σ β} (ht : Reads t) (hnext : ∀ a, Reads (next a)) :
    Reads (t >>= next) := by
  intro d
  obtain ⟨hstore, hnow⟩ := ht d
  rw [outcome_bind]
  rcases houtcome : outcome t d with ⟨_ | a, d'⟩
  · rw [houtcome] at hstore hnow
    exact ⟨hstore, hnow⟩
  · rw [houtcome] at hstore hnow
    obtain ⟨hstore', hnow'⟩ := hnext a d'
    exact ⟨hstore'.trans hstore, hnow'.trans hnow⟩

theorem of_asks {t : Task σ α} (ht : Asks t) : Reads t := by
  obtain ⟨reply, hreply⟩ := ht
  intro d
  rw [hreply]
  exact ⟨rfl, rfl⟩

theorem issueToken (settings : Settings) (account : Account) :
    Reads (issueToken settings account : Task σ String) := by
  unfold Desk.issueToken
  refine clock.bind fun now => ?_
  split
  · exact pure _
  · exact fail _

end Reads

theorem outcome_accountOf (d : Desk σ) (id : Uuid) :
    outcome (accountOf id) d =
      (match d.store.getAccount id with
        | .error fault => .error (.store fault)
        | .ok none => .error (.noAccount id)
        | .ok (some account) => .ok account, d) := by
  have hlook := outcome_look d (Store.getAccount id)
  unfold accountOf
  cases hget : d.store.getAccount id with
  | error fault =>
    rw [hget] at hlook
    exact outcome_bind_error hlook
  | ok found =>
    rw [hget] at hlook
    rw [outcome_bind_ok hlook]
    cases found <;> rfl

/-- Nothing is written, or one change of a profile is, onto a copy of an account. -/
def Writes (copy : ProfileWrite → Account → Prop) (d : Desk σ) (s : Store) : Prop :=
  s = d.store ∨ ∃ w a row, copy w a ∧ d.store.saveAccount d.now (w.onto a) = .ok (row, s)

theorem Writes.of_same {copy : ProfileWrite → Account → Prop} {d d' : Desk σ} {s : Store}
    (hstore : d'.store = d.store) (hnow : d'.now = d.now) (h : Writes copy d' s) :
    Writes copy d s := by
  unfold Writes at *
  rwa [hstore, hnow] at h

theorem writes_saveAccount {copy : ProfileWrite → Account → Prop} {w : ProfileWrite} {a : Account}
    (h : copy w a) (d : Desk σ) :
    Writes copy d (outcome (saveAccount (w.onto a)) d).2.store := by
  cases hsave : d.store.saveAccount d.now (w.onto a) with
  | error fault =>
    rw [outcome_saveAccount_error d hsave]
    exact .inl rfl
  | ok saved =>
    rw [outcome_saveAccount_ok d hsave]
    exact .inr ⟨w, a, saved.1, h, hsave⟩

/-- What follows a write and only reads changes nothing about it. -/
theorem writes_bind {copy : ProfileWrite → Account → Prop} {d : Desk σ} {t : Task σ α}
    {next : α → Task σ β} (ht : Writes copy d (outcome t d).2.store)
    (hnext : ∀ a, Reads (next a)) : Writes copy d (outcome (t >>= next) d).2.store := by
  rw [outcome_bind]
  rcases houtcome : outcome t d with ⟨_ | a, d'⟩
  · rw [houtcome] at ht
    exact ht
  · rw [houtcome] at ht
    rw [(hnext a d').1]
    exact ht

/-- What only reads may come before a write. -/
theorem writes_of_reads {copy : ProfileWrite → Account → Prop} {d : Desk σ} {t : Task σ α}
    {next : α → Task σ β} (ht : Reads t)
    (hnext : ∀ a d', outcome t d = (.ok a, d') → Writes copy d' (outcome (next a) d').2.store) :
    Writes copy d (outcome (t >>= next) d).2.store := by
  obtain ⟨hstore, hnow⟩ := ht d
  rw [outcome_bind]
  rcases houtcome : outcome t d with ⟨_ | a, d'⟩
  · rw [houtcome] at hstore
    exact .inl hstore
  · rw [houtcome] at hstore hnow
    exact .of_same hstore hnow (hnext a d' houtcome)

/-- Whatever is looked up, the rest of a task goes on from the same desk. -/
theorem writes_look {copy : ProfileWrite → Account → Prop} {d : Desk σ}
    {query : Store → Except Store.Fault α} {next : α → Task σ β}
    (h : ∀ a, query d.store = .ok a → Writes copy d (outcome (next a) d).2.store) :
    Writes copy d (outcome (look query >>= next) d).2.store := by
  have hlook := outcome_look d query
  cases hquery : query d.store with
  | error fault =>
    rw [hquery] at hlook
    rw [outcome_bind_error hlook]
    exact .inl rfl
  | ok a =>
    rw [hquery] at hlook
    rw [outcome_bind_ok hlook]
    exact h a hquery

section Tasks

variable (settings : Settings) (d : Desk σ)

/-- Signing in writes the row that was found under the name. -/
theorem login_writes (username password : String) (hkeyed : d.store.Keyed) :
    Writes (fun w a => w = .signIn d.now ∧ d.store.getAccount a.id = .ok (some a)) d
      (outcome (login settings username password) d).2.store := by
  refine writes_look fun found hfound => ?_
  split
  · exact .inl rfl
  · rename_i account
    split
    · exact .inl rfl
    · rw [outcome_bind_ok (outcome_clock d)]
      exact writes_bind
        (writes_saveAccount (w := .signIn d.now)
          ⟨rfl, Store.getAccount_of_loadFirst hkeyed hfound⟩ d)
        fun row => (Reads.issueToken settings row).bind fun _ => Reads.pure _
  · exact .inl rfl

/-- The account of somebody who signs in with GitHub for the first time. -/
def newcomer (profile : GitHub.Profile) (token : String) (made : Account) : Account :=
  { made with
    fullName := profile.name
    avatarUrl := profile.avatarUrl
    emailVerified := profile.email.isSome }.connectGitHub profile.id profile.login token

/-- An account of a profile is written whose e-mail address nobody has. -/
def Welcomes (s : Store) : Prop :=
  ∃ (profile : GitHub.Profile) (token : String) (id : Uuid) (username : String)
      (made row : Account),
    d.store.accountWithEmail (profileEmail profile) = .ok none ∧
    Account.make id d.now username (profileEmail profile) = .good made ∧
    d.store.saveAccount d.now ((newcomer profile token made).recordLogin d.now) = .ok (row, s)

/-- With an e-mail address that nobody has, all depends on the name. -/
theorem outcome_accountOfProfile_free {profile : GitHub.Profile} (token : String)
    (hemail : d.store.accountWithEmail (profileEmail profile) = .ok none) :
    outcome (accountOfProfile profile token) d =
      match availableUsername d.store profile.login with
      | .error _ => (.error (.unusableProfile profile.login), d)
      | .ok username =>
        match Account.make (d.ids d.used) d.now username (profileEmail profile) with
        | .bad _ => (.error (.unusableProfile profile.login), { d with used := d.used + 1 })
        | .good made => (.ok (newcomer profile token made), { d with used := d.used + 1 }) := by
  have hlook := outcome_look d (Store.accountWithEmail (profileEmail profile))
  rw [hemail] at hlook
  rw [accountOfProfile, outcome_bind_ok hlook]
  simp only [Option.isSome_none, Bool.false_eq_true, ↓reduceIte]
  rw [outcome_bind_ok (outcome_get d)]
  cases availableUsername d.store profile.login with
  | error fault => rfl
  | ok username =>
    dsimp only
    rw [outcome_bind_ok (outcome_freshId d), outcome_bind_ok (outcome_clock _)]
    dsimp only
    cases Account.make (d.ids d.used) d.now username (profileEmail profile) <;> rfl

/-- An account is made of a profile, or the store is left as it is. -/
theorem outcome_accountOfProfile (profile : GitHub.Profile) (token : String) :
    (∃ failure d', outcome (accountOfProfile profile token) d = (.error failure, d') ∧
      d'.store = d.store) ∨
    d.store.accountWithEmail (profileEmail profile) = .ok none ∧ ∃ username made,
      Account.make (d.ids d.used) d.now username (profileEmail profile) = .good made ∧
      outcome (accountOfProfile profile token) d =
        (.ok (newcomer profile token made), { d with used := d.used + 1 }) := by
  have hlook := outcome_look d (Store.accountWithEmail (profileEmail profile))
  cases hemail : d.store.accountWithEmail (profileEmail profile) with
  | error fault =>
    rw [hemail] at hlook
    exact .inl ⟨_, _, outcome_bind_error hlook, rfl⟩
  | ok owner =>
    cases owner with
    | some _ =>
      rw [hemail] at hlook
      rw [accountOfProfile, outcome_bind_ok hlook]
      exact .inl ⟨_, _, outcome_bind_error rfl, rfl⟩
    | none =>
      rw [outcome_accountOfProfile_free d token hemail]
      cases availableUsername d.store profile.login with
      | error fault => exact .inl ⟨_, _, rfl, rfl⟩
      | ok username =>
        dsimp only
        cases hmade : Account.make (d.ids d.used) d.now username (profileEmail profile) with
        | bad problems => exact .inl ⟨_, _, rfl, rfl⟩
        | good made => exact .inr ⟨rfl, username, made, hmade, rfl⟩

/-- The end of a sign-in: the copy is written, and its owner gets a token. -/
def letIn (copy : Account) : Task σ (Account × String) := do
  let row ← saveAccount copy
  return (row, ← issueToken settings row)

theorem outcome_letIn_error {copy : Account} {fault : Store.Fault}
    (h : d.store.saveAccount d.now copy = .error fault) :
    outcome (letIn settings copy) d = (.error (.store fault), d) :=
  outcome_bind_error (outcome_saveAccount_error d h)

theorem outcome_letIn_ok {copy row : Account} {store : Store}
    (h : d.store.saveAccount d.now copy = .ok (row, store)) :
    outcome (letIn settings copy) d =
      (((Token.issue settings.secret settings.tokenLifetime d.now row).mapError .badToken).map
        (row, ·), { d with store }) := by
  rw [letIn, outcome_bind_ok (outcome_saveAccount_ok d h), issueToken, bind_assoc,
    outcome_bind_ok (outcome_clock _)]
  cases Token.issue settings.secret settings.tokenLifetime d.now row <;> rfl

/-- The copies of accounts with which somebody can sign in who has a profile. -/
inductive Entrant (profile : GitHub.Profile) (token : String) : Account → Prop
  | known {a : Account} (hrow : d.store.getAccount a.id = .ok (some a))
      (hlinked : a.githubId = some profile.id) (hactive : a.isActive = true) :
      Entrant profile token ((ProfileWrite.gitHubSignIn d.now profile token).onto a)
  | new {username : String} {made : Account}
      (hnobody : d.store.accountWithGitHub profile.id = .ok none)
      (hemail : d.store.accountWithEmail (profileEmail profile) = .ok none)
      (hmade : Account.make (d.ids d.used) d.now username (profileEmail profile) = .good made) :
      Entrant profile token ((newcomer profile token made).recordLogin d.now)

/-- The copy of somebody who was looked for by a profile. -/
def entry (profile : GitHub.Profile) (token : String) : Option Account → Task σ Account
  | none => accountOfProfile profile token
  | some a => if a.isActive then pure (refreshed profile token a) else fail .disabled

section GitHub

variable {settings d} {code token : String} {profile : GitHub.Profile} {d' : Desk σ}

/-- Once GitHub has given the profile, all depends on who is found by it. -/
theorem outcome_gitHubLogin_found {found : Option Account}
    (hexchange : outcome (exchangeCode settings code) d = (.ok (token, profile), d'))
    (hfound : d'.store.accountWithGitHub profile.id = .ok found) :
    outcome (gitHubLogin settings code) d = outcome (do
      let a ← entry profile token found
      letIn settings (a.recordLogin (← clock))) d' := by
  have hlook := outcome_look d' (Store.accountWithGitHub profile.id)
  rw [hfound] at hlook
  rw [gitHubLogin, outcome_bind_ok hexchange]
  dsimp only
  rw [outcome_bind_ok hlook]
  cases found with
  | none => rfl
  | some a => cases hactive : a.isActive <;> simp only [entry, hactive] <;> rfl

theorem outcome_gitHubLogin_known {a : Account}
    (hexchange : outcome (exchangeCode settings code) d = (.ok (token, profile), d'))
    (hfound : d'.store.accountWithGitHub profile.id = .ok (some a)) (hactive : a.isActive = true) :
    outcome (gitHubLogin settings code) d =
      outcome (letIn settings ((ProfileWrite.gitHubSignIn d'.now profile token).onto a)) d' := by
  rw [outcome_gitHubLogin_found hexchange hfound, entry, if_pos hactive]
  rfl

/-- Nobody is let in without a copy that can be written. -/
theorem outcome_gitHubLogin_cases
    (hexchange : outcome (exchangeCode settings code) d = (.ok (token, profile), d'))
    (hkeyed : d.store.Keyed) :
    (∃ failure d', outcome (gitHubLogin settings code) d = (.error failure, d') ∧
      d'.store = d.store) ∨
    ∃ copy d'', Entrant d profile token copy ∧ d''.store = d.store ∧ d''.now = d.now ∧
      outcome (gitHubLogin settings code) d = outcome (letIn settings copy) d'' := by
  obtain ⟨github, rfl⟩ := (Asks.exchangeCode settings code).desk hexchange
  cases hfound : d.store.accountWithGitHub profile.id with
  | error fault =>
    have hlook := outcome_look { d with github } (Store.accountWithGitHub profile.id)
    dsimp only at hlook
    rw [hfound] at hlook
    refine .inl ⟨.store fault, { d with github }, ?_, rfl⟩
    rw [gitHubLogin, outcome_bind_ok hexchange]
    exact outcome_bind_error hlook
  | ok found =>
    have hrest := outcome_gitHubLogin_found hexchange hfound
    cases found with
    | none =>
      rcases outcome_accountOfProfile { d with github } profile token with
        ⟨failure, d', hfail, hsame⟩ | ⟨hemail, username, made, hmade, hnew⟩
      · exact .inl ⟨failure, d', hrest.trans (outcome_bind_error hfail), hsame⟩
      · exact .inr ⟨_, { d with github, used := d.used + 1 }, .new hfound hemail hmade, rfl, rfl,
          hrest.trans (outcome_bind_ok hnew)⟩
    | some a =>
      cases hactive : a.isActive with
      | false =>
        rw [entry, if_neg (by simp [hactive])] at hrest
        exact .inl ⟨.disabled, { d with github }, hrest, rfl⟩
      | true =>
        obtain ⟨hlinked, hrow⟩ := Store.linked_of_accountWithGitHub hkeyed hfound
        exact .inr ⟨_, { d with github }, .known hrow hlinked hactive, rfl, rfl,
          outcome_gitHubLogin_known hexchange hfound hactive⟩

end GitHub

/-- Signing in with GitHub writes nothing, or the copy of somebody who can sign in with the profile
that GitHub gives. -/
theorem gitHubLogin_enters (code : String) (hkeyed : d.store.Keyed) :
    (∃ failure d', outcome (gitHubLogin settings code) d = (.error failure, d') ∧
      d'.store = d.store) ∨
    ∃ token profile d₁ copy row d', outcome (exchangeCode settings code) d =
        (.ok (token, profile), d₁) ∧
      Entrant d profile token copy ∧
      d.store.saveAccount d.now copy = .ok (row, d'.store) ∧
      outcome (gitHubLogin settings code) d =
        (((Token.issue settings.secret settings.tokenLifetime d.now row).mapError .badToken).map
          (row, ·), d') := by
  rcases hexchange : outcome (exchangeCode settings code) d with ⟨failure | ⟨token, profile⟩, d₁⟩
  · obtain ⟨github, rfl⟩ := (Asks.exchangeCode settings code).desk hexchange
    exact .inl ⟨failure, _, outcome_bind_error hexchange, rfl⟩
  rcases outcome_gitHubLogin_cases hexchange hkeyed with
    hfails | ⟨copy, d₂, hcopy, hstore, hnow, houtcome⟩
  · exact .inl hfails
  cases hsave : d.store.saveAccount d.now copy with
  | error fault =>
    rw [outcome_letIn_error settings d₂ (by rw [hstore, hnow]; exact hsave)] at houtcome
    exact .inl ⟨_, _, houtcome, hstore⟩
  | ok saved =>
    rw [outcome_letIn_ok settings d₂ (by rw [hstore, hnow]; exact hsave), hnow] at houtcome
    exact .inr ⟨token, profile, d₁, copy, saved.1, _, rfl, hcopy, hsave, houtcome⟩

/-- Signing in with GitHub writes the row that was found under the identity, or makes an account
if there is none. -/
theorem gitHubLogin_writes (code : String) (hkeyed : d.store.Keyed) :
    Writes (fun w a => (∃ profile token, w = .gitHubSignIn d.now profile token) ∧
        a.githubId.isSome ∧ d.store.getAccount a.id = .ok (some a)) d
      (outcome (gitHubLogin settings code) d).2.store ∨
    Welcomes d (outcome (gitHubLogin settings code) d).2.store := by
  rcases gitHubLogin_enters settings d code hkeyed with
    ⟨failure, d', houtcome, hsame⟩ | ⟨token, profile, d₁, copy, row, d', -, hcopy, hsave, houtcome⟩
  · rw [houtcome]
    exact .inl (.inl hsame)
  rw [houtcome]
  cases hcopy with
  | @known a hrow hlinked hactive =>
    exact .inl (.inr ⟨_, a, row, ⟨⟨profile, token, rfl⟩, by simp [hlinked], hrow⟩, hsave⟩)
  | @new username made hnobody hemail hmade =>
    exact .inr ⟨profile, token, _, username, made, row, hemail, hmade, hsave⟩

/-- Linking writes the caller's copy, with the profile that GitHub gives. -/
theorem linkGitHub_writes (caller : Account) (code : String) :
    Writes (fun w a => (∃ profile token d', outcome (exchangeCode settings code) d =
        (.ok (token, profile), d') ∧ w = .link profile token) ∧ a = caller) d
      (outcome (linkGitHub settings caller code) d).2.store := by
  refine writes_of_reads (Reads.of_asks (.exchangeCode settings code)) fun exchanged d' h => ?_
  obtain ⟨token, profile⟩ := exchanged
  refine writes_look fun owner _ => ?_
  split
  · exact .inl rfl
  · exact writes_saveAccount (w := .link profile token) ⟨⟨profile, token, d', h, rfl⟩, rfl⟩ d'

/-- Disconnecting writes the caller's copy. -/
theorem disconnectGitHub_writes (caller : Account) :
    Writes (fun w a => w = .disconnect ∧ a = caller) d
      (outcome (disconnectGitHub caller) d).2.store :=
  writes_saveAccount (w := .disconnect) ⟨rfl, rfl⟩ d

/-- An update writes the row that was found under the identifier. -/
theorem updateAccount_writes (id : Uuid) (u : Account.Update) :
    Writes (fun w a => w = .update u ∧ d.store.getAccount id = .ok (some a)) d
      (outcome (updateAccount id u) d).2.store := by
  have hload := outcome_accountOf d id
  cases hget : d.store.getAccount id with
  | error fault =>
    rw [hget] at hload
    rw [updateAccount, outcome_bind_error hload]
    exact .inl rfl
  | ok found =>
    rw [hget] at hload
    cases found with
    | none =>
      rw [updateAccount, outcome_bind_error hload]
      exact .inl rfl
    | some account =>
      rw [updateAccount, outcome_bind_ok hload]
      exact writes_saveAccount (w := .update u) ⟨rfl, rfl⟩ d

end Tasks

end Desk

end ReviewDesk
