import ReviewDesk.Model.Script
import ReviewDesk.Proofs.Making
import ReviewDesk.Proofs.Steps
import ReviewDesk.Service.Body

/-!
# What the desk can be asked to do

An `Operation` is a task that may change the store, for an account that is loaded when the task
starts. Each one takes the store to another by steps, and so does every row of them: `Reachable`
holds of the stores that come about in this way, `ReachableBy` of those that come about by
operations of some kind, and `ReachableBy.induct` is what is used about both.
-/
namespace ReviewDesk

/-- What the desk can be asked to do that may change the store. -/
inductive Operation where
  | register (username email password : String) (fullName : Option String)
  | createAccount (username email password : String) (fullName : Option String) (role : Role)
  | createSpecial (body : List (String × Json))
  | login (username password : String)
  | gitHubLogin (code : String)
  | linkGitHub (caller : Uuid) (code : String)
  | disconnectGitHub (caller : Uuid)
  | updateAccount (id : Uuid) (body : List (String × Json))
  | deleteAccount (id : Uuid)
  | resetUsage (id : Uuid)
  | createReview (caller : Uuid) (title : String) (description : Option String) (files : Files)
  | resolveFinding (caller review finding : Uuid)
  | deleteReview (caller review : Uuid)

namespace Operation

variable {σ : Type}

/-- The task of an operation; what it gives is of no interest here. -/
def task (m : Model σ) (settings : Settings) : Operation → Task σ Unit
  | register username email password fullName => do
    discard <| Desk.register settings username email password fullName
  | createAccount username email password fullName role => do
    discard <| Desk.createAccount settings username email password fullName ({ · with role })
  | createSpecial body => do
    let r ← Desk.checked (Service.SpecialRegistration.read body)
    discard <| Desk.createSpecial settings r.username r.email r.password r.fullName r.usageLimit
  | login username password => do discard <| Desk.login settings username password
  | gitHubLogin code => do discard <| Desk.gitHubLogin settings code
  | linkGitHub caller code => do
    discard <| Desk.linkGitHub settings (← Desk.accountOf caller) code
  | disconnectGitHub caller => do discard <| Desk.disconnectGitHub (← Desk.accountOf caller)
  | updateAccount id body => do
    discard <| Desk.updateAccount id (← Desk.checked (Service.readUpdate body))
  | deleteAccount id => Desk.deleteAccount id
  | resetUsage id => do discard <| Desk.resetUsage id
  | createReview caller title description files => do
    discard <| Desk.createReview m (← Desk.accountOf caller) title description files
  | resolveFinding caller review finding => do
    discard <| Desk.resolveFinding (← Desk.accountOf caller) review finding
  | deleteReview caller review => do
    Desk.deleteReview (← Desk.accountOf caller) review

/-- A review is asked for that has a file which cannot be checked. -/
def IsUnchecked : Operation → Prop
  | createReview _ _ _ files => ∃ f ∈ files, Inspection.isTooDeep f.1 f.2 = true
  | _ => False

/-- A review as an operation may leave it that takes place at some time. -/
structure Leaves (op : Operation) (now : Moment) (r : Review) : Prop where
  opened : r.createdAt = now
  sound : r.Sound op.IsUnchecked

/-- The desk after some operations in a row. -/
def runAll (m : Model σ) (settings : Settings) (ops : List Operation) (d : Desk σ) : Desk σ :=
  ops.foldl (fun d op => (Desk.outcome (op.task m settings) d).2) d

end Operation

namespace Account

variable {a : Account}

/-- An account is made if its name and its e-mail address have lengths that are allowed. -/
theorem make_eq_good_iff {id : Uuid} {now : Moment} {username email : String} :
    make id now username email = .good a ↔
      (1 ≤ username.length ∧ username.length ≤ usernameLimit) ∧
        (3 ≤ email.length ∧ email.length ≤ emailLimit) ∧
        a = { id, username, email, createdAt := now, updatedAt := now } := by
  simp only [make, Checked.seq_eq_good, Checked.map_eq_good, Checked.under_eq_good,
    Field.checkLength_eq_good]
  constructor
  · rintro ⟨_, _, ⟨_, ⟨hname, rfl⟩, rfl⟩, ⟨hemail, rfl⟩, rfl⟩
    exact ⟨hname, hemail, rfl⟩
  · rintro ⟨hname, hemail, rfl⟩
    exact ⟨_, _, ⟨_, ⟨hname, rfl⟩, rfl⟩, ⟨hemail, rfl⟩, rfl⟩

theorem regular_make {id : Uuid} {now : Moment} {username email : String}
    (h : make id now username email = .good a) : a.Regular ∧ a.email = email := by
  obtain ⟨hname, -, rfl⟩ := make_eq_good_iff.mp h
  exact ⟨⟨hname, ⟨rfl, rfl⟩, by simp, Int.le_refl 0, Int.le_refl 0⟩, rfl⟩

theorem Regular.makeSpecial (h : a.Regular) {limit : Option Int} (hlimit : ∀ n ∈ limit, 1 ≤ n) :
    (a.makeSpecial limit).Regular :=
  { h with limit := fun n hn => ⟨rfl, hlimit n hn⟩ }

end Account

namespace Service

/-- A limit that a request gives is one at least. -/
theorem limit_of_optional {fields : List (String × Json)} {key : Field.Key} {limit : Option Int}
    (h : Field.optional fields key none readLimit = .good limit) : ∀ n ∈ limit, 1 ≤ n := by
  unfold Field.optional at h
  split at h
  · rw [Checked.under_eq_good, readLimit, Field.nullable.eq_def] at h
    split at h
    · cases h
      simp
    · obtain ⟨n, hn, rfl⟩ := (Checked.map_eq_good some).mp h
      simpa using Field.le_of_integerFrom hn
  · cases h
    simp

theorem limit_of_readUpdate {fields : List (String × Json)} {u : Account.Update}
    (h : readUpdate fields = .good u) : ∀ n ∈ u.usageLimit, 1 ≤ n := by
  simp only [readUpdate, Checked.seq_eq_good, Checked.map_eq_good] at h
  obtain ⟨_, limit, hrest, hlimit, rfl⟩ := h
  obtain ⟨_, _, ⟨_, _, ⟨_, _, ⟨_, _, ⟨_, -, rfl⟩, -, rfl⟩, -, rfl⟩, -, rfl⟩, -, rfl⟩ := hrest
  exact limit_of_optional hlimit

theorem limit_of_specialRegistration {fields : List (String × Json)} {r : SpecialRegistration}
    (h : SpecialRegistration.read fields = .good r) : ∀ n ∈ r.usageLimit, 1 ≤ n := by
  simp only [SpecialRegistration.read, Checked.seq_eq_good, Checked.map_eq_good] at h
  obtain ⟨_, limit, ⟨_, -, rfl⟩, hlimit, rfl⟩ := h
  exact limit_of_optional hlimit

end Service

namespace Desk

open Relation (ReflTransGen)

variable {σ α β : Type} {R : Store → Store → Prop} {d : Desk σ} {opened : Moment}

/-- A task takes the store to another by changes of some kind. -/
def Moves (R : Store → Store → Prop) (t : Task σ α) (d : Desk σ) : Prop :=
  ReflTransGen R d.store (outcome t d).2.store

theorem moves_of_same {t : Task σ α} (h : (outcome t d).2.store = d.store) : Moves R t d := by
  rw [Moves, h]

theorem moves_of_step {t : Task σ α} (h : R d.store (outcome t d).2.store) : Moves R t d :=
  .single h

theorem moves_bind {t : Task σ α} {next : α → Task σ β} (ht : Moves R t d)
    (hnext : ∀ a d', outcome t d = (.ok a, d') → Moves R (next a) d') :
    Moves R (t >>= next) d := by
  unfold Moves at *
  rw [outcome_bind]
  rcases houtcome : outcome t d with ⟨_ | a, d'⟩
  · rwa [houtcome] at ht
  · rw [houtcome] at ht
    exact ht.trans (hnext a d' houtcome)

/-- What every change keeps, the task keeps. -/
theorem moves_keep {P : Store → Prop} {t : Task σ α} (h : Moves R t d)
    (hR : ∀ s s', R s s' → P s → P s') (hd : P d.store) : P (outcome t d).2.store := by
  unfold Moves at h
  generalize (outcome t d).2.store = s at h
  induction h with
  | refl => exact hd
  | tail _ hlast ih => exact hR _ _ hlast ih

/-- What a task gives does not matter. -/
theorem moves_discard {t : Task σ α} (h : Moves R t d) : Moves R (discard t) d :=
  moves_bind h fun _ _ _ => moves_of_same rfl

theorem moves_look {query : Store → Except Store.Fault α} {next : α → Task σ β}
    (h : ∀ a, query d.store = .ok a → Moves R (next a) d) : Moves R (look query >>= next) d := by
  have hlook := outcome_look d query
  refine moves_bind (moves_of_same (by rw [hlook])) fun a d' hd' => ?_
  rw [hlook, Prod.mk.injEq] at hd'
  obtain ⟨hquery, rfl⟩ := hd'
  cases hq : query d.store with
  | error fault => simp [hq, Except.mapError] at hquery
  | ok b =>
    obtain rfl : b = a := by simpa [hq, Except.mapError] using hquery
    exact h b hq

theorem moves_checked {c : Checked α} {next : α → Task σ β}
    (h : ∀ a, c = .good a → Moves R (next a) d) : Moves R (checked c >>= next) d := by
  cases c with
  | good a => exact moves_bind (moves_of_same rfl) fun b d' hd' => by cases hd'; exact h a rfl
  | bad problems => exact moves_of_same rfl

/-- Whoever asks is loaded first. -/
theorem moves_accountOf {id : Uuid} {next : Account → Task σ β}
    (h : ∀ a, a.id = id → d.store.getAccount a.id = .ok (some a) → Moves R (next a) d) :
    Moves R (accountOf id >>= next) d := by
  have hload := outcome_accountOf d id
  refine moves_bind (moves_of_same (by rw [hload])) fun a d' hd' => ?_
  rw [hload, Prod.mk.injEq] at hd'
  obtain ⟨ha, rfl⟩ := hd'
  split at ha
  · cases ha
  · cases ha
  · next hget =>
    cases ha
    have hid := Store.row?_id (Store.getAccount_eq_ok_iff.mp hget).1
    exact h a hid (hid ▸ hget)

section CreateReview

variable {m : Model σ} {caller : Account} {id : Uuid} {files : Files} {r : Review}
  {fit : Review → Prop}

theorem moves_saveReview (hid : r.id = id) (howner : r.reviewerId = caller.id) (hr : fit r) :
    Moves (Store.Making caller.id id fit) (saveReview r) d := by
  cases hsave : d.store.saveReview r with
  | error fault => exact moves_of_same (by rw [outcome_saveReview_error hsave])
  | ok s =>
    apply moves_of_step
    rw [outcome_saveReview_ok hsave]
    exact .keep hid howner hr hsave

theorem moves_addFiles (now : Moment) (count : Nat) :
    Moves (Store.Making caller.id id fit)
      (change fun s => (s.addFiles now caller.id count).map ((), ·)) d := by
  have hcount : Store.Making caller.id id fit d.store
      ((Tally.Change.addFiles count).run now caller.id d.store) :=
    .count now (Int.natCast_nonneg count)
  rw [Tally.Change.run] at hcount
  cases hadd : d.store.addFiles now caller.id count with
  | error fault => exact moves_of_same (by rw [outcome_addFiles_error hadd])
  | ok s =>
    apply moves_of_step
    rw [outcome_addFiles_ok hadd]
    rwa [hadd] at hcount

/-- A review as it is opened. -/
structure Blank (id : Uuid) (caller : Account) (opened : Moment) (r : Review) : Prop where
  id : r.id = id
  owner : r.reviewerId = caller.id
  opened : r.createdAt = opened
  pending : r.status = .pending
  score : r.score = none
  findings : r.findings = []

theorem blank_make {title : String} {description : Option String}
    (h : Review.make id opened caller.id title description = .good r) :
    Blank id caller opened r := by
  obtain ⟨title, -, rfl⟩ := (Checked.map_eq_good _).mp h
  exact ⟨rfl, rfl, rfl, rfl, rfl, rfl⟩

variable {unchecked : Prop}

theorem Blank.sound (h : Blank id caller opened r) : r.Sound unchecked := by
  rw [Review.Sound, h.pending]
  exact ⟨h.score, h.findings⟩

/-- A review that is given up has what the model found only if the checks failed. The text of a
failure is cut, but only at its end. -/
theorem Blank.sound_stopped (h : Blank id caller opened r) {fault : Model.Fault}
    {issues : List Issue} (hissues : issues = [] ∨ unchecked ∧ fault = .broken "") :
    ((stopped r d issues).fail d.now (Failure.analysis fault.message).message).Sound
      unchecked := by
  refine ⟨h.score, ?_, fault.message, _, rfl, ?_, ?_⟩
  · rcases hissues with rfl | ⟨hunchecked, rfl⟩
    · exact .inl (stopped_findings h.findings [])
    · exact .inr ⟨hunchecked, rfl⟩
  · rw [String.length_ofList, List.length_take]
    exact Nat.min_le_left _ _
  · rw [String.toList_ofList]
    exact List.take_prefix _ _

theorem sound_found (m : Model σ) (files : Files) (r : Review) (d : Desk σ) (issues : List Issue)
    (usage : Usage) : (found m files r d issues usage).Sound unchecked := by
  rw [found, concluded_eq]
  exact ⟨rfl, rfl, rfl⟩

theorem finish_moves (h : Blank id caller opened r)
    (hfit : ∀ q : Review, q.createdAt = opened →
      q.Sound (∃ f ∈ files, Inspection.isTooDeep f.1 f.2 = true) → fit q) :
    Moves (Store.Making caller.id id fit) (finish m caller files r) d := by
  unfold Moves
  cases hpass : modelPass m files d with
  | error pass =>
    obtain ⟨fault, issues⟩ := pass
    rw [outcome_finish_fault hpass]
    refine moves_bind (d := afterPass m files issues d) ?_ fun _ _ _ => moves_of_same rfl
    unfold Moves
    rw [outcome_abandon]
    have hrelease :
        Store.Making caller.id id fit d.store (d.store.releaseReview d.now caller.id) :=
      .count d.now (c := .release) trivial
    have hfailed := moves_saveReview
      (d := { afterPass m files issues d with
        store := d.store.releaseReview d.now caller.id })
      (r := (stopped r d issues).fail d.now (Failure.analysis fault.message).message) h.id h.owner
      (hfit _ h.opened (h.sound_stopped (modelPass_error hpass)))
    dsimp only [afterPass] at hfailed ⊢
    exact .head hrelease hfailed
  | ok seen =>
    obtain ⟨issues, usage⟩ := seen
    rw [outcome_finish_found hpass]
    obtain ⟨hid, howner, hopened⟩ := found_same m files r d issues usage
    refine moves_bind (d := afterPass m files (allIssues files issues) d) ?_
      fun _ _ _ => moves_of_same rfl
    refine moves_bind (moves_saveReview (hid.trans h.id) (howner.trans h.owner)
      (hfit _ (hopened.trans h.opened) (sound_found m files r d issues usage))) fun _ d' _ => ?_
    exact moves_bind (moves_of_same rfl) fun now _ _ => moves_addFiles now files.length

/-- Whatever the model does, a review is made by counting for its owner and by keeping the review
under one identifier, as opened now. -/
theorem createReview_moves (m : Model σ) (caller : Account) (title : String)
    (description : Option String) (files : Files) (d : Desk σ) :
    Moves (Store.Making caller.id (d.ids d.used)
        ((Operation.createReview caller.id title description files).Leaves d.now))
      (createReview m caller title description files) d := by
  set fit := (Operation.createReview caller.id title description files).Leaves d.now
  cases hadmit : checkAdmission caller files with
  | error failure => exact moves_of_same (by rw [outcome_createReview_refused hadmit])
  | ok =>
    have hreserve : Store.Making caller.id (d.ids d.used) fit d.store
        (Tally.Change.reserve.run d.now caller.id d.store) :=
      .count d.now trivial
    cases hplace : (d.store.reserveReview d.now caller.id).1 with
    | false =>
      apply moves_of_step
      rw [outcome_createReview_full hadmit hplace]
      exact hreserve
    | true =>
      unfold Moves
      rw [outcome_createReview_reserved hadmit hplace]
      refine .head hreserve ?_
      set d' : Desk σ := { d with store := (d.store.reserveReview d.now caller.id).2 }
      cases hmake : Review.make (d.ids d.used) d.now caller.id title description with
      | bad problems =>
        rw [outcome_bind_error (outcome_openReview_bad (d := d') hmake)]
        exact .refl
      | good r =>
        have hblank := blank_make hmake
        cases hsave : d'.store.saveReview r with
        | error fault =>
          rw [outcome_bind_error (outcome_openReview_error (d := d') hmake hsave)]
          exact .refl
        | ok s =>
          rw [outcome_bind_ok (outcome_openReview (d := d') hmake hsave)]
          exact .head (.keep hblank.id hblank.owner ⟨hblank.opened, hblank.sound⟩ hsave)
            (finish_moves (d := { d' with store := s, used := d'.used + 1 }) hblank
              fun _ hopened hsound => ⟨hopened, hsound⟩)

end CreateReview

section Accounts

variable (settings : Settings) {fit : Review → Prop}

/-- A password takes one identifier for its salt. -/
theorem hashPassword_desk (password : String) (d : Desk σ) :
    (outcome (hashPassword settings password) d).2 = { d with used := d.used + 1 } := by
  rw [hashPassword, outcome_bind_ok (outcome_freshId d)]
  split <;> rfl

/-- Nothing goes on unless the e-mail address is free. -/
theorem moves_checkAvailable {username email : String} {next : Unit → Task σ α}
    (h : d.store.accountWithEmail email = .ok none → Moves R (next ()) d) :
    Moves R (checkAvailable username email >>= next) d := by
  rw [checkAvailable, bind_assoc]
  refine moves_look fun named _ => ?_
  cases named with
  | some _ => exact moves_of_same rfl
  | none =>
    simp only [Option.isSome_none, Bool.false_eq_true, ↓reduceIte, bind_assoc]
    refine moves_look fun owner howner => ?_
    cases owner with
    | some _ => exact moves_of_same rfl
    | none => exact moves_bind (moves_of_same rfl) fun _ d' hd' => by cases hd'; exact h howner

/-- An account is added under the second of the identifiers that are given out, if at all. -/
theorem addAccount_joins (username email password : String) (fullName : Option String)
    (finish : Account → Account)
    (h : ∀ hash made row s, d.store.accountWithEmail email = .ok none →
      Account.make (d.ids (d.used + 1)) d.now username email = .good made →
      d.store.saveAccount d.now (finish { made with passwordHash := some hash, fullName }) =
        .ok (row, s) → R d.store s) :
    Moves R (addAccount settings username email password fullName finish) d := by
  refine moves_checkAvailable fun hemail => ?_
  refine moves_bind (moves_of_same (by rw [hashPassword_desk])) fun hash d₁ hd₁ => ?_
  obtain rfl : d₁ = { d with used := d.used + 1 } := by
    rw [← hashPassword_desk settings password d, hd₁]
  unfold Moves
  rw [outcome_bind_ok (outcome_freshId _), outcome_bind_ok (outcome_clock _)]
  cases hmade : Account.make (d.ids (d.used + 1)) d.now username email with
  | bad problems => exact .refl
  | good made =>
    rw [outcome_bind_ok (outcome_checked_good _ made)]
    set d₂ : Desk σ := { d with used := d.used + 1 + 1 }
    cases hsave : d.store.saveAccount d.now
        (finish { made with passwordHash := some hash, fullName }) with
    | error fault =>
      rw [outcome_saveAccount_error d₂ hsave]
    | ok saved =>
      rw [outcome_saveAccount_ok d₂ hsave]
      exact .single (h hash made saved.1 saved.2 hemail hmade hsave)

theorem addAccount_moves (username email password : String) (fullName : Option String)
    {finish : Account → Account}
    (hfinish : ∀ a, a.Regular → (finish a).Regular ∧ (finish a).email = a.email) :
    Moves (Store.Step fit) (addAccount settings username email password fullName finish) d := by
  refine addAccount_joins settings _ _ _ _ _ fun hash made row s hemail hmade hsave => ?_
  obtain ⟨hregular, rfl⟩ := Account.regular_make hmade
  obtain ⟨hfinished, hsame⟩ := hfinish { made with passwordHash := some hash, fullName }
    { hregular with }
  exact .join hfinished (by rw [hsame]; exact hemail) hsave

theorem createAccount_moves (username email password : String) (fullName : Option String)
    {finish : Account → Account}
    (hfinish : ∀ a, a.Regular → (finish a).Regular ∧ (finish a).email = a.email) :
    Moves (Store.Step fit) (createAccount settings username email password fullName finish) d :=
  addAccount_moves settings username email password fullName fun a ha =>
    hfinish { a with emailVerified := true } { ha with }

/-- A change of a profile that was written is a step if the copy was the row. -/
theorem moves_of_writes {copy : ProfileWrite → Account → Prop} {t : Task σ α}
    (h : Writes copy d (outcome t d).2.store)
    (hcopy : ∀ w a, copy w a → d.store.getAccount a.id = .ok (some a) ∧ w.Fitting a) :
    Moves (Store.Step fit) t d := by
  rcases h with hsame | ⟨w, a, row, hwa, hsave⟩
  · exact moves_of_same hsame
  · obtain ⟨hrow, hfitting⟩ := hcopy w a hwa
    exact moves_of_step (.write hrow hfitting hsave)

theorem gitHubLogin_moves (code : String) (hkeyed : d.store.Keyed) :
    Moves (Store.Step fit) (gitHubLogin settings code) d := by
  rcases gitHubLogin_writes settings d code hkeyed with hwrites | hwelcomes
  · refine moves_of_writes hwrites ?_
    rintro w a ⟨⟨profile, token, rfl⟩, hlinked, hrow⟩
    exact ⟨hrow, hlinked⟩
  · obtain ⟨profile, token, id, username, made, row, hemail, hmade, hsave⟩ := hwelcomes
    obtain ⟨hregular, hsame⟩ := Account.regular_make hmade
    refine moves_of_step (.join ?_ (by rw [← hsame] at hemail; exact hemail) hsave)
    exact { hregular with linked := ⟨rfl, rfl⟩ }

theorem deleteAccount_moves {id : Uuid} (h : R d.store (d.store.deleteAccount id)) :
    Moves R (deleteAccount id) d := by
  refine moves_accountOf fun account _ _ => ?_
  split
  · exact moves_of_same rfl
  · exact moves_of_step h

theorem resetUsage_moves {id : Uuid}
    (h : ∀ now, R d.store (Tally.Change.reset.run now id d.store)) :
    Moves R (resetUsage id) d := by
  refine moves_bind (moves_of_same rfl) fun now d' hd' => ?_
  cases hd'
  refine moves_bind (moves_of_step (h d.now)) fun there d'' _ => ?_
  split
  · exact moves_of_same (by rw [outcome_accountOf])
  · exact moves_of_same rfl

end Accounts

section Reviews

theorem moves_reviewFor {caller : Account} {id : Uuid} {next : Review → Task σ α}
    (h : ∀ r, d.store.getReview id = some r → r.reviewerId = caller.id ∨ caller.isAdmin = true →
      Moves R (next r) d) :
    Moves R (reviewFor caller id >>= next) d := by
  unfold reviewFor
  rw [bind_assoc]
  refine moves_bind (moves_of_same rfl) fun d' d'' hd' => ?_
  cases hd'
  split
  · exact moves_of_same rfl
  · next r hr =>
    split
    · next hallowed =>
      have hmay : r.reviewerId = caller.id ∨ caller.isAdmin = true := by simpa using hallowed
      exact moves_bind (moves_of_same rfl) fun _ _ he => by cases he; exact h r hr hmay
    · exact moves_of_same rfl

theorem resolveFinding_moves {caller : Account} {review finding : Uuid}
    (h : ∀ r f, R d.store (d.store.setResolved r f true).2) :
    Moves R (resolveFinding caller review finding) d := by
  refine moves_reviewFor fun r _ _ => ?_
  split
  · exact moves_of_same rfl
  · next f _ => exact moves_bind (moves_of_step (h r.id f.id)) fun _ _ _ => moves_of_same rfl

theorem deleteReview_moves {caller : Account} {review : Uuid}
    (h : ∀ r, R d.store (d.store.deleteReview r)) : Moves R (deleteReview caller review) d :=
  moves_reviewFor fun r _ _ => moves_of_step (h r.id)

end Reviews

/-- Every operation takes the store to another by steps. -/
theorem operation_moves (m : Model σ) (settings : Settings) (op : Operation)
    (hkeyed : d.store.Keyed) : Moves (Store.Step (op.Leaves d.now)) (op.task m settings) d := by
  cases op with
  | register username email password fullName =>
    exact moves_discard (addAccount_moves settings _ _ _ _ fun a ha => ⟨ha, rfl⟩)
  | createAccount username email password fullName role =>
    exact moves_discard (createAccount_moves settings _ _ _ _ fun a ha => ⟨{ ha with }, rfl⟩)
  | createSpecial body =>
    refine moves_checked fun r hr => moves_discard ?_
    refine createAccount_moves settings _ _ _ _ fun a ha => ?_
    exact ⟨ha.makeSpecial (Service.limit_of_specialRegistration hr), rfl⟩
  | login username password =>
    refine moves_discard (moves_of_writes (login_writes settings d username password hkeyed) ?_)
    rintro w a ⟨rfl, hrow⟩
    exact ⟨hrow, trivial⟩
  | gitHubLogin code => exact moves_discard (gitHubLogin_moves settings code hkeyed)
  | linkGitHub caller code =>
    refine moves_accountOf fun a _ hrow => moves_discard ?_
    refine moves_of_writes (linkGitHub_writes settings d a code) ?_
    rintro w _ ⟨⟨profile, token, d', -, rfl⟩, rfl⟩
    exact ⟨hrow, trivial⟩
  | disconnectGitHub caller =>
    refine moves_accountOf fun a _ hrow => moves_discard ?_
    refine moves_of_writes (disconnectGitHub_writes d a) ?_
    rintro w _ ⟨rfl, rfl⟩
    exact ⟨hrow, trivial⟩
  | updateAccount id body =>
    refine moves_checked fun u hu => moves_discard ?_
    refine moves_of_writes (updateAccount_writes d id u) ?_
    rintro w a ⟨rfl, hrow⟩
    have hid := Store.row?_id (Store.getAccount_eq_ok_iff.mp hrow).1
    exact ⟨hid ▸ hrow, Service.limit_of_readUpdate hu⟩
  | deleteAccount id => exact deleteAccount_moves (.leave id)
  | resetUsage id =>
    exact moves_discard (resetUsage_moves fun now => .count now id (c := .reset) trivial)
  | createReview caller title description files =>
    refine moves_accountOf fun a hid _ => moves_discard ?_
    subst hid
    exact (createReview_moves m a title description files d).lift id fun _ _ h => h.step
  | resolveFinding caller review finding =>
    refine moves_accountOf fun a _ _ => moves_discard ?_
    exact resolveFinding_moves fun r f => .resolve r f true
  | deleteReview caller review =>
    exact moves_accountOf fun a _ _ => deleteReview_moves fun r => .drop r

/-- What every step keeps, an operation keeps. -/
theorem operation_keeps {P : Store → Prop} (m : Model σ) (settings : Settings) (op : Operation)
    (hstep : ∀ s s', Store.Step (op.Leaves d.now) s s' → s.Keyed → P s → P s')
    (hd : d.store.Keyed ∧ P d.store) :
    (outcome (op.task m settings) d).2.store.Keyed ∧
      P (outcome (op.task m settings) d).2.store := by
  -- Which row an operation writes is known only while identifiers are unique.
  have hboth (s s' : Store) (h : Store.Step (op.Leaves d.now) s s') (hs : s.Keyed ∧ P s) : s'.Keyed ∧ P s' :=
    ⟨h.keyed hs.1, hstep s s' h hs.1 hs.2⟩
  exact moves_keep (P := fun s => s.Keyed ∧ P s) (operation_moves m settings op hd.1) hboth hd

end Desk

/-- The stores that come about from the empty one by operations that are allowed at their time, each
with a desk of its own: with any model and any identifiers to give out. -/
inductive ReachableBy (allowed : Moment → Operation → Prop) : Store → Prop
  | empty : ReachableBy allowed {}
  | after {σ : Type} (m : Model σ) (settings : Settings) (d : Desk σ) (op : Operation)
      (hop : allowed d.now op) (h : ReachableBy allowed d.store) :
      ReachableBy allowed (Desk.outcome (op.task m settings) d).2.store

/-- The stores that come about from the empty one by operations of any kind at any time. -/
def Reachable : Store → Prop := ReachableBy fun _ _ => True

/-- Whatever every step of an allowed operation keeps holds of all stores that come about. -/
theorem ReachableBy.induct {allowed : Moment → Operation → Prop} {P : Store → Prop}
    {s : Store} (hs : ReachableBy allowed s) (hempty : P {})
    (hstep : ∀ now op, allowed now op →
      ∀ s s', Store.Step (op.Leaves now) s s' → s.Keyed → P s → P s') : P s := by
  have hboth : s.Keyed ∧ P s := by
    induction hs with
    | empty => exact ⟨List.nodup_nil, hempty⟩
    | after m settings d op hop h ih =>
      exact Desk.operation_keeps m settings op (hstep d.now op hop) ih
  exact hboth.2

theorem ReachableBy.runAll {allowed : Moment → Operation → Prop} {σ : Type} (m : Model σ)
    (settings : Settings) {ops : List Operation} (hops : ∀ op ∈ ops, ∀ now, allowed now op)
    {d : Desk σ} (hd : ReachableBy allowed d.store) :
    ReachableBy allowed (Operation.runAll m settings ops d).store := by
  induction ops generalizing d with
  | nil => exact hd
  | cons op rest ih =>
    obtain ⟨hop, hrest⟩ := List.forall_mem_cons.mp hops
    exact ih hrest (.after m settings d op (hop d.now) hd)

/-- A desk where nothing has happened yet, with a model that knows its replies. -/
def newDesk (replies : List Model.Reply) : Desk Model.Script where
  now := ⟨0, some 0⟩
  ids k := Uuid.ofNat (k + 1)
  model := { name := "script", replies }

/-- The store of a new desk after some operations. -/
def storeAfter (replies : List Model.Reply) (ops : List Operation) : Store :=
  (Operation.runAll (Model.Script.model "script") { secret := "secret" } ops
    (newDesk replies)).store

theorem reachable_storeAfter (replies : List Model.Reply) (ops : List Operation) :
    Reachable (storeAfter replies ops) :=
  ReachableBy.runAll _ _ (fun _ _ _ => trivial) .empty

end ReviewDesk
