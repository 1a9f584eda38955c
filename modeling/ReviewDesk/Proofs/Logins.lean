import Mathlib
import ReviewDesk.Proofs.Updates

/-!
# Signing in with a password

An attempt to sign in that fails tells nothing about the accounts: an unknown name, an account
without a password and a wrong password end in the same way, and nothing changes. With the right
password the row of an active account is written with the time, and a token is made for it. The
exceptions are on the side of the store and the calendar: a row that cannot be read is told apart,
and there is no token that expires after the last year.
-/
namespace ReviewDesk

namespace Password

/-- The version, the work factor and the salt of a password that is stored now. -/
def newFront (rounds : Nat) (salt : Uuid) : List Char :=
  "$2b$".toList ++ twoDigits rounds ++ ['$'] ++ saltText salt

/-- A stored form that comes from hashing a password. -/
def Made (stored : String) : Prop :=
  ∃ rounds salt password, hash? rounds salt password = some stored

theorem isHashLetter_of_mem_hashText {bytes : List UInt8} {c : Char} (h : c ∈ hashText bytes) :
    isHashLetter c = true := by
  have hletters : ∀ n < 64, isHashLetter (if Digest.letter n == '-' then '.'
      else if Digest.letter n == '_' then '/' else Digest.letter n) = true := by decide +kernel
  obtain ⟨d, hd, rfl⟩ := List.mem_map.mp h
  obtain ⟨n, hn, rfl⟩ := Digest.mem_encodeChars hd
  exact hletters n hn

theorem dollar_not_mem_hashText (bytes : List UInt8) : '$' ∉ hashText bytes := by
  intro h
  have hletter := isHashLetter_of_mem_hashText h
  revert hletter
  decide

theorem length_saltText (salt : Uuid) : (saltText salt).length = 22 := by
  simp [saltText, hashText, List.range_succ, Digest.encodeChars]

theorem isDigit_of_mem_twoDigits {n : Nat} {c : Char} (h : c ∈ twoDigits n) :
    c.isDigit = true := by
  have hdigits : ∀ c ∈ (toString n).toList, c.isDigit = true := by
    intro c hc
    rw [Nat.toString_eq_ofList_toDigits, String.toList_ofList] at hc
    exact Json.isDigit_toDigits hc
  unfold twoDigits at h
  split at h
  · rcases List.mem_cons.mp h with rfl | h
    · decide
    · exact hdigits c h
  · exact hdigits c h

/-- The stored form, cut at its dollar signs. -/
theorem splitOn_digest (rounds : Nat) (salt : Uuid) (bytes : List UInt8) :
    ∃ hash, (digest (newFront rounds salt) bytes).splitOn '$' =
      [[], ['2', 'b'], twoDigits rounds, saltText salt ++ hash] := by
  set hash := (hashText (Digest.sha256 (Text.utf8Bytes (.ofList (newFront rounds salt)) ++
    bytes))).take 31 with hhash
  have hchars : digest (newFront rounds salt) bytes =
      [] ++ '$' :: (['2', 'b'] ++ '$' :: (twoDigits rounds ++ '$' :: (saltText salt ++ hash))) := by
    simp [digest, newFront, hhash]
  have hversion : '$' ∉ ['2', 'b'] := by decide
  have hcost : '$' ∉ twoDigits rounds := fun h => by
    have hdigit := isDigit_of_mem_twoDigits h
    revert hdigit
    decide
  have hrest : '$' ∉ saltText salt ++ hash := by
    rw [List.mem_append, not_or]
    exact ⟨dollar_not_mem_hashText _, fun h => dollar_not_mem_hashText _ (List.mem_of_mem_take h)⟩
  refine ⟨hash, ?_⟩
  rw [hchars, List.splitOn_append_cons_self, List.splitOn_append_cons_self,
    List.splitOn_append_cons_self, List.splitOn_nil, List.splitOn_eq_singleton hversion,
    List.splitOn_eq_singleton hcost, List.splitOn_eq_singleton hrest]
  rfl

theorem twoDigits_ne_nil (n : Nat) : twoDigits n ≠ [] := by
  unfold twoDigits
  split
  · exact List.cons_ne_nil _ _
  · rw [Nat.toString_eq_ofList_toDigits, String.toList_ofList]
    exact Nat.toDigits_ne_nil

/-- What stands in front of the hash is found in the stored form. -/
theorem frontOf_digest (rounds : Nat) (salt : Uuid) (bytes : List UInt8) :
    frontOf (.ofList (digest (newFront rounds salt) bytes)) = some (newFront rounds salt) := by
  obtain ⟨hash, hsplit⟩ := splitOn_digest rounds salt bytes
  have hsalt : (saltText salt ++ hash).take 22 = saltText salt := by
    rw [List.take_append_of_le_length (length_saltText salt).ge, ← length_saltText salt,
      List.take_length]
  have hletters : (saltText salt).all isHashLetter = true :=
    List.all_eq_true.mpr fun _ => isHashLetter_of_mem_hashText
  have hdigits : (twoDigits rounds).all Char.isDigit = true :=
    List.all_eq_true.mpr fun _ => isDigit_of_mem_twoDigits
  have hcost : (twoDigits rounds).isEmpty = false :=
    List.isEmpty_eq_false_iff.mpr (twoDigits_ne_nil rounds)
  have hversion : ["2a", "2b", "2x", "2y"].contains (String.ofList ['2', 'b']) = true := by decide
  rw [frontOf, String.toList_ofList, hsplit]
  dsimp only
  rw [hsalt, hversion, hcost, hdigits, hletters, length_saltText]
  simp [newFront]

theorem hash_eq_some_iff {rounds : Nat} {salt : Uuid} {password stored : String} :
    hash? rounds salt password = some stored ↔ (Text.utf8Bytes password).length ≤ byteLimit ∧
      stored = .ofList (digest (newFront rounds salt) (Text.utf8Bytes password)) := by
  unfold hash?
  dsimp only
  rw [← newFront]
  split_ifs with hlong
  · simp [hlong]
  · simp [Nat.not_lt.mp hlong, eq_comm]

/-- A password is checked against the hash under the same front. -/
theorem verify_hash {rounds : Nat} {salt : Uuid} {password stored : String}
    (h : hash? rounds salt password = some stored) (attempt : String) :
    verify? attempt (some stored) =
      some (digest (newFront rounds salt) ((Text.utf8Bytes attempt).take byteLimit) ==
        digest (newFront rounds salt) (Text.utf8Bytes password)) := by
  obtain ⟨-, rfl⟩ := hash_eq_some_iff.mp h
  rw [verify?, frontOf_digest, Option.map_some, String.toList_ofList]

/-- Whatever is tried, a stored form that was made can be read. -/
theorem exists_verify {stored : String} (h : Made stored) (attempt : String) :
    ∃ same, verify? attempt (some stored) = some same := by
  obtain ⟨rounds, salt, password, hhash⟩ := h
  exact ⟨_, verify_hash hhash attempt⟩

/-- A password is what it was stored as. -/
theorem verify_hash_self {rounds : Nat} {salt : Uuid} {password stored : String}
    (h : hash? rounds salt password = some stored) :
    verify? password (some stored) = some true := by
  obtain ⟨hshort, -⟩ := hash_eq_some_iff.mp h
  rw [verify_hash h, List.take_of_length_le hshort, BEq.rfl]

end Password

namespace Token

/-- The lifetime is a count of days that can be written, and the calendar goes on for as long. -/
def Issuable (lifetime : Int) (now : Moment) : Prop :=
  (-999999999 ≤ lifetime / 86400 ∧ lifetime / 86400 ≤ 999999999) ∧
    (now.addMicroseconds (lifetime * Moment.second)).inRange = true

instance (lifetime : Int) (now : Moment) : Decidable (Issuable lifetime now) :=
  inferInstanceAs (Decidable (_ ∧ _))

theorem exists_issue_iff (secret : String) {lifetime : Int} {now : Moment} (a : Account) :
    (∃ token, issue secret lifetime now a = .ok token) ↔ Issuable lifetime now := by
  refine ⟨fun ⟨token, h⟩ => ?_, fun h => exists_issue secret a h.1 h.2⟩
  rw [issue, Int.fdiv_eq_ediv_of_nonneg _ (by decide)] at h
  split_ifs at h with hdays hrange
  simp only [Bool.or_eq_true, decide_eq_true_eq, not_or, Int.not_lt] at hdays
  rw [Bool.not_eq_true', Bool.not_eq_false] at hrange
  exact ⟨hdays, hrange⟩

end Token

/-- The row of an account that signs in now. -/
def Account.noted (now : Moment) (a : Account) : Account :=
  { a with lastLoginAt := some now, updatedAt := now }

namespace Store

variable {s : Store} {username password : String} {a : Account}

/-- The row of a name. -/
def named? (username : String) (s : Store) : Option Account :=
  s.accounts.find? (·.username == username)

/-- Every password that is stored comes from hashing one. -/
def Hashed (s : Store) : Prop := ∀ a ∈ s.accounts, ∀ stored ∈ a.passwordHash, Password.Made stored

/-- The name has a stored password, and it is this one. -/
def Verifies (username password : String) (s : Store) : Prop :=
  ∃ a ∈ s.named? username, Password.verify? password a.passwordHash = some true

instance (username password : String) (s : Store) : Decidable (s.Verifies username password) :=
  inferInstanceAs (Decidable (∃ a ∈ s.named? username, _))

/-- The password is that of an active account, whose row can be read. -/
structure Admits (username password : String) (a : Account) (s : Store) : Prop where
  row : s.named? username = some a
  readable : a.Readable
  verifies : Password.verify? password a.passwordHash = some true
  active : a.isActive = true

theorem loadFirst_filter (p : Account → Bool) (rows : List Account) :
    loadFirst (rows.filter p) = match rows.find? p with
      | none => .ok none
      | some row => (loadRow row).map some := by
  rw [← List.head?_filter]
  cases rows.filter p <;> rfl

theorem accountNamed_eq (username : String) (s : Store) :
    s.accountNamed username = match s.named? username with
      | none => .ok none
      | some row => (loadRow row).map some :=
  loadFirst_filter _ _

theorem accountNamed_of_row (hrow : s.named? username = some a) (hreadable : a.Readable) :
    s.accountNamed username = .ok (some a) := by
  rw [accountNamed_eq, hrow]
  dsimp only
  rw [loadRow_of_readable hreadable]
  rfl

/-- The stored password of a row can be read, if there is one. -/
theorem Hashed.exists_verify (hs : s.Hashed) (ha : a ∈ s.accounts) (password : String) :
    ∃ same, Password.verify? password a.passwordHash = some same := by
  cases hstored : a.passwordHash with
  | none => exact ⟨false, rfl⟩
  | some stored => exact Password.exists_verify (hs a ha stored hstored) password

/-- What a store is after the sign-in of an account was noted in its row. -/
structure Noted (now : Moment) (a : Account) (s s' : Store) : Prop where
  row : s'.row? a.id = some (a.noted now)
  ids : s'.accounts.map (·.id) = s.accounts.map (·.id)
  others : s'.accounts.filter (·.id != a.id) = s.accounts.filter (·.id != a.id)
  reviews : s'.reviews = s.reviews

theorem noted_putRow (ha : a ∈ s.accounts) (now : Moment) :
    Noted now a s { s with accounts := putRow (a.noted now) s.accounts } := by
  have hrow := find_putRow (a.noted now) a.id s.accounts
  have hid : (a.noted now).id ∈ s.accounts.map (·.id) := List.mem_map_of_mem (f := (·.id)) ha
  exact ⟨hrow.trans (if_pos rfl), ids_putRow hid, filter_putRow_others (a.noted now) s.accounts,
    rfl⟩

end Store

namespace Desk

open Store (Hashed Verifies Admits Noted)

variable {σ : Type} {settings : Settings} {d : Desk σ} {username password : String} {a : Account}

theorem outcome_login_illegible (settings : Settings) (password : String)
    (h : ¬Legible d.store username) :
    ∃ problems, outcome (login settings username password) d =
      (.error (.store (.unreadable problems)), d) := by
  obtain ⟨problems, hfault⟩ := accountNamed_of_not_legible h
  have hlook := outcome_look d (Store.accountNamed username)
  rw [hfault] at hlook
  exact ⟨problems, outcome_bind_error hlook⟩

/-- With the wrong password it makes no difference whether there is an account. -/
theorem outcome_login_failed (hs : d.store.Hashed) (hlegible : Legible d.store username)
    (h : ¬d.store.Verifies username password) :
    outcome (login settings username password) d = (.error .badCredentials, d) := by
  have hlook := outcome_look d (Store.accountNamed username)
  cases hrow : d.store.named? username with
  | none =>
    rw [Store.accountNamed_eq, hrow] at hlook
    rw [login, outcome_bind_ok hlook]
    rfl
  | some a =>
    obtain ⟨same, hsame⟩ := hs.exists_verify (List.mem_of_find?_eq_some hrow) password
    have hwrong : same = false := by
      rw [← Bool.not_eq_true]
      rintro rfl
      exact h ⟨a, hrow, hsame⟩
    rw [Store.accountNamed_of_row hrow (hlegible a hrow)] at hlook
    rw [login, outcome_bind_ok hlook, Option.bind_some, hsame, hwrong]
    rfl

theorem outcome_login_disabled (hrow : d.store.named? username = some a)
    (hreadable : a.Readable) (hverify : Password.verify? password a.passwordHash = some true)
    (hactive : a.isActive = false) :
    outcome (login settings username password) d = (.error .disabled, d) := by
  have hlook := outcome_look d (Store.accountNamed username)
  rw [Store.accountNamed_of_row hrow hreadable] at hlook
  rw [login, outcome_bind_ok hlook, Option.bind_some, hverify]
  dsimp only
  rw [hactive]
  rfl

/-- The sign-in is noted before the token is made, so it stays noted if there can be no token. -/
theorem outcome_login_admitted (h : d.store.Admits username password a)
    (hadmitted : d.store.Admitted a) :
    outcome (login settings username password) d =
      (match Token.issue settings.secret settings.tokenLifetime d.now (a.noted d.now) with
        | .ok token => .ok (a.noted d.now, token)
        | .error fault => .error (.badToken fault),
      { d with store := { d.store with
          accounts := Store.putRow (a.noted d.now) d.store.accounts } }) := by
  have hlook := outcome_look d (Store.accountNamed username)
  rw [Store.accountNamed_of_row h.row h.readable] at hlook
  have hfits : Store.fitsAccount (a.recordLogin d.now) = true :=
    (Store.fitsAccount_iff _).mpr ⟨hadmitted.bounded.1, hadmitted.bounded.2, h.readable.1.1,
      h.readable.2.1⟩
  have hfree : ¬d.store.Contested (a.recordLogin d.now) :=
    Store.free_of_others (a := a) rfl ⟨rfl, rfl, rfl⟩ rfl hadmitted.free
  have hsave : outcome (saveAccount (a.recordLogin d.now)) d = (.ok (a.noted d.now), { d with
      store := { d.store with accounts := Store.putRow (a.noted d.now) d.store.accounts } }) :=
    outcome_saveAccount_ok d ((Store.saveAccount_eq d.now hfits).2 hfree)
  rw [login, outcome_bind_ok hlook, Option.bind_some, h.verifies]
  dsimp only
  rw [h.active, Bool.not_true, if_neg Bool.false_ne_true, outcome_bind_ok (outcome_clock d),
    outcome_bind_ok hsave, issueToken, bind_assoc, outcome_bind_ok (outcome_clock _)]
  dsimp only
  cases Token.issue settings.secret settings.tokenLifetime d.now (a.noted d.now) <;> rfl

/-- Whoever is not let in is refused, and nothing changes. -/
theorem exists_login_refused (settings : Settings) (hs : d.store.Hashed)
    (h : ∀ a, ¬d.store.Admits username password a) :
    ∃ failure, outcome (login settings username password) d = (.error failure, d) := by
  by_cases hlegible : Legible d.store username
  · by_cases hverifies : d.store.Verifies username password
    · obtain ⟨a, hrow, hverify⟩ := hverifies
      have hactive : a.isActive = false :=
        Bool.not_eq_true _ ▸ fun hactive => h a ⟨hrow, hlegible a hrow, hverify, hactive⟩
      exact ⟨_, outcome_login_disabled hrow (hlegible a hrow) hverify hactive⟩
    · exact ⟨_, outcome_login_failed hs hlegible hverifies⟩
  · obtain ⟨problems, hfails⟩ := outcome_login_illegible settings password hlegible
    exact ⟨_, hfails⟩

/-- The sign-in of whoever is let in is noted, and the token is that of the account. -/
theorem exists_login_noted (settings : Settings) (h : d.store.Admits username password a)
    (hadmitted : d.store.Admitted a) :
    ∃ result s, outcome (login settings username password) d = (result, { d with store := s }) ∧
      Noted d.now a d.store s ∧
      ∀ b token, result = .ok (b, token) ↔ b = a.noted d.now ∧
        Token.issue settings.secret settings.tokenLifetime d.now b = .ok token := by
  refine ⟨_, _, outcome_login_admitted h hadmitted,
    Store.noted_putRow (List.mem_of_find?_eq_some h.row) d.now, fun b token => ?_⟩
  cases hissue : Token.issue settings.secret settings.tokenLifetime d.now (a.noted d.now) with
  | error fault =>
    simp only [reduceCtorEq, false_iff]
    rintro ⟨rfl, hok⟩
    rw [hissue] at hok
    cases hok
  | ok made =>
    simp only [Except.ok.injEq, Prod.mk.injEq]
    constructor
    · rintro ⟨rfl, rfl⟩
      exact ⟨rfl, hissue⟩
    · rintro ⟨rfl, hok⟩
      rw [hissue, Except.ok.injEq] at hok
      exact ⟨rfl, hok⟩

section Example

/-- The account of somebody who has a password. -/
def adaWithPassword : Account :=
  { ada with passwordHash := Password.hash? 4 (Uuid.ofNat 9) "password" }

/-- A desk with that account alone. -/
def passwordDesk : Desk Model.Script :=
  { newDesk [] with store := ⟨[adaWithPassword], []⟩ }

theorem hashed_passwordDesk : passwordDesk.store.Hashed := by
  intro a ha stored hstored
  obtain rfl := List.mem_singleton.mp ha
  exact ⟨4, Uuid.ofNat 9, "password", hstored⟩

theorem hashed_fullDesk : fullDesk.store.Hashed := by
  have hnone : fullDesk.store.accounts.all (·.passwordHash.isNone) = true := by decide +kernel
  intro a ha stored hstored
  have := List.all_eq_true.mp hnone a ha
  simp [Option.mem_def.mp hstored] at this

theorem admitted_passwordDesk :
    ∀ a ∈ passwordDesk.store.accounts, passwordDesk.store.Admitted a := by
  intro a ha
  obtain rfl := List.mem_singleton.mp ha
  refine ⟨?_, by rintro g ⟨⟩, by rintro n ⟨⟩⟩
  rintro ⟨b, hb, hne, -⟩
  obtain rfl := List.mem_singleton.mp hb
  exact hne rfl

theorem admits_passwordDesk : passwordDesk.store.Admits "ada" "password" adaWithPassword where
  row := by rfl
  readable := by decide
  verifies := by decide +kernel
  active := rfl

end Example

end Desk

end ReviewDesk
