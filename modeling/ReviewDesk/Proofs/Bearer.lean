import Mathlib.Tactic.SplitIfs
import ReviewDesk.Proofs.Authority
import ReviewDesk.Proofs.JsonText
import ReviewDesk.Proofs.Moments
import ReviewDesk.Proofs.Operations

/-!
# A token stays with its account

A token that was issued is taken apart into what was put together, so it names the account that it
was issued to and is good for as many whole seconds as were asked for. What happens to the store in
the meantime has no part in this: the token gives the row that has the identifier, or nothing.
-/
namespace ReviewDesk

namespace Token

open Json (Flat)

/-! ## What is signed can be opened -/

theorem dot_not_mem_encode64 (bytes : List UInt8) : '.' ∉ (Digest.encode64 bytes).toList := by
  intro h
  rw [Digest.encode64, String.toList_ofList] at h
  obtain ⟨n, hn, hdot⟩ := Digest.mem_encodeChars h
  exact (Digest.letterValue_letter n hn).2.2.1 hdot.symm

theorem split_sign (secret : String) (header claims : Json) :
    split (sign secret header claims) =
      some ⟨segment header ++ "." ++ segment claims, segment header, segment claims,
        Digest.encode64 (signature secret (segment header ++ "." ++ segment claims))⟩ := by
  have hchars (x y z : String) : (x ++ "." ++ y ++ "." ++ z).toList =
      x.toList ++ '.' :: (y.toList ++ '.' :: z.toList) := by simp
  have hone (bytes : List UInt8) : (Digest.encode64 bytes).toList.splitOn '.' =
      [(Digest.encode64 bytes).toList] :=
    List.splitOn_eq_singleton (dot_not_mem_encode64 bytes)
  have hmiddle (s : String) : ".".intercalate [s] = s := by simp
  rw [split, sign, hchars, List.splitOn_append_cons_self, List.splitOn_append_cons_self, segment,
    segment, hone, hone, hone]
  simp [hmiddle]

theorem ok_bind {α β : Type} (x : α) (f : α → Except Fault β) : (Except.ok x >>= f) = f x := rfl

theorem objectOf_write {fields : List (String × Json)} (hf : Flat fields) :
    objectOf (Text.utf8Bytes (Json.write .compact (.obj fields))) = .ok fields := by
  rw [objectOf, hf.parseBytes_write]

/-- The claims that were signed are found again, with the same secret. -/
theorem openClaims_sign (secret : String) {fields : List (String × Json)} (hf : Flat fields) :
    openClaims secret (sign secret header (.obj fields)) = .ok fields := by
  have hbytes (bytes : List UInt8) : bytesOf (Digest.encode64 bytes) = .ok bytes := by
    rw [bytesOf, Digest.decode64_encode64]
  have hheader : Flat [("alg", .str "HS256"), ("typ", .str "JWT")] :=
    ⟨by simp, by decide, by simp [Json.Plain]⟩
  have hgood : headerOk [("alg", .str "HS256"), ("typ", .str "JWT")] = true := by decide +kernel
  rw [openClaims, split_sign]
  simp only [segment, header, hbytes, ok_bind, objectOf_write hheader, hgood, bne_self_eq_false,
    Bool.not_true, Bool.false_eq_true, ↓reduceIte]
  exact objectOf_write hf

/-! ## What was issued -/

section Issued

variable {secret token : String} {lifetime t : Int} {a : Account}

/-- The instant from which on a token is no longer good. -/
def expiry (t lifetime : Int) : Int := (t / Moment.second + lifetime) * Moment.second

def claimFields (a : Account) (issued expires : Int) : List (String × Json) :=
  [("sub", .str a.username), ("userId", .str a.id.text), ("email", .str a.email),
    ("iat", .int issued), ("exp", .int expires)]

/-- A token is issued if it expires at a time of the calendar. -/
theorem exists_issue {now : Moment} (secret : String) (a : Account)
    (hdays : -999999999 ≤ lifetime / 86400 ∧ lifetime / 86400 ≤ 999999999)
    (hrange : (now.addMicroseconds (lifetime * Moment.second)).inRange = true) :
    ∃ token, issue secret lifetime now a = .ok token := by
  rw [issue, Int.fdiv_eq_ediv_of_nonneg _ (by decide), if_neg, if_neg]
  · exact ⟨_, rfl⟩
  · simp [hrange]
  · simpa only [Bool.or_eq_true, decide_eq_true_eq, not_or, Int.not_lt] using hdays

/-- A token that is issued holds two times in whole seconds, of which the later one is a time of
the calendar. -/
theorem eq_sign_of_issue (h : issue secret lifetime (.utc t) a = .ok token) :
    token = sign secret header
        (.obj (claimFields a (t / Moment.second) (t / Moment.second + lifetime))) ∧
      (-999999999 ≤ lifetime / 86400 ∧ lifetime / 86400 ≤ 999999999) ∧
      -719162 * 86400 ≤ t / Moment.second + lifetime ∧
      t / Moment.second + lifetime < 2932897 * 86400 := by
  have hissued : (Moment.utc t).wholeSeconds = t / Moment.second := by
    simp [Moment.wholeSeconds, Moment.instant, Moment.utc]
  have hexpires : ((Moment.utc t).addMicroseconds (lifetime * Moment.second)).wholeSeconds =
      t / Moment.second + lifetime := by
    simp only [Moment.wholeSeconds, Moment.instant, Moment.utc, Moment.addMicroseconds,
      Option.getD_some, Int.zero_mul, Int.sub_zero]
    exact Int.add_mul_ediv_right t lifetime (by decide)
  rw [issue, hissued, hexpires, Int.fdiv_eq_ediv_of_nonneg _ (by decide)] at h
  split_ifs at h with hdays hrange
  cases h
  rw [Bool.not_eq_true', Bool.not_eq_false, Moment.inRange, Bool.and_eq_true, decide_eq_true_eq,
    decide_eq_true_eq, Moment.firstWall_eq, Moment.lastWall_eq] at hrange
  simp only [Bool.or_eq_true, decide_eq_true_eq, not_or, Int.not_lt] at hdays
  have hday : Moment.day = 86400 * 1000000 := rfl
  have hsecond : Moment.second = 1000000 := rfl
  have hwall : ((Moment.utc t).addMicroseconds (lifetime * Moment.second)).wall =
      t + lifetime * Moment.second := rfl
  rw [hwall, hday, hsecond] at hrange
  refine ⟨rfl, hdays, ?_⟩
  rw [hsecond]
  omega

theorem plain_int {n : Int} (h : n.natAbs < 10 ^ 20) : (Json.int n).Plain := by
  have hpow : 10 ^ 20 ≤ 10 ^ Json.maxDigits := Nat.pow_le_pow_right (by decide) (by decide)
  exact (Nat.length_toDigits_le_iff (by decide) (by decide)).mpr (Nat.lt_of_lt_of_le h hpow)

theorem flat_claimFields {issued expires : Int} (hissued : issued.natAbs < 10 ^ 20)
    (hexpires : expires.natAbs < 10 ^ 20) : Flat (claimFields a issued expires) where
  nonempty := by simp [claimFields]
  keys := by
    have hkeys : (claimFields a issued expires).map (·.1) =
        ["sub", "userId", "email", "iat", "exp"] := rfl
    rw [hkeys]
    decide
  plain := by
    have htext (s : String) : (Json.str s).Plain := trivial
    simp [claimFields, htext, plain_int hissued, plain_int hexpires]

/-- A token is checked against the time it was issued and the time it expires, and nothing else. -/
theorem checkClaims_claimFields {now : Moment} {issued expires : Int}
    (hissued : issued * Moment.second ≤ now.instant) :
    checkClaims now (claimFields a issued expires) =
      if expires * Moment.second ≤ now.instant then .error .expired else .ok () := by
  have hpresent : ["sub", "userId", "exp"].any (isMissing (claimFields a issued expires)) =
      false := rfl
  have hiat : checkNotAfter now (claimFields a issued expires) "iat" = .ok () := by
    have hlookup : Json.lookup? (claimFields a issued expires) "iat" = some (.int issued) := rfl
    rw [checkNotAfter, hlookup]
    simp only [wholeOf, ok_bind, Int.not_lt.mpr hissued, ↓reduceIte]
    rfl
  have hnbf : checkNotAfter now (claimFields a issued expires) "nbf" = .ok () := rfl
  have hexp : wholeOf ((Json.lookup? (claimFields a issued expires) "exp").getD .null) =
      .ok expires := rfl
  have haud : ((Json.lookup? (claimFields a issued expires) "aud").getD .null).isTruthy =
      false := rfl
  have hsub : isTextOrAbsent (claimFields a issued expires) "sub" = true := rfl
  have hjti : isTextOrAbsent (claimFields a issued expires) "jti" = true := rfl
  rw [checkClaims, hpresent, hiat, hnbf, hexp, haud, hsub, hjti]
  simp only [Bool.false_eq_true, ↓reduceIte, ok_bind]
  split
  · rfl
  · rfl

theorem momentOf_seconds {n : Int} (hfirst : -719162 * 86400 ≤ n) (hlast : n < 2932897 * 86400) :
    momentOf n 0 = .ok (.utc (n * Moment.second)) := by
  have hdays : n.fdiv 86400 = n / 86400 := Int.fdiv_eq_ediv_of_nonneg _ (by decide)
  have hyear := @Moment.year_dateOfDays (n / 86400) (by omega) (by omega)
  rw [momentOf, hdays]
  generalize Moment.dateOfDays (n / 86400) = date at hyear
  obtain ⟨year, month, day⟩ := date
  have hfits : ¬(n < -0x8000000000000000 ∨ 0x8000000000000000 ≤ n) := by omega
  have hclock : ¬(2147485547 < year ∨ year < -2147481748) := by omega
  have hcalendar : ¬(year < 1 ∨ 9999 < year) := by omega
  simp only [Bool.or_eq_true, decide_eq_true_eq, hfits, hclock, hcalendar, ↓reduceIte, Int.add_zero]

/-- A token that was issued gives back the account it was issued to, until it expires. -/
theorem verify_issue (h : issue secret lifetime (.utc t) a = .ok token) {now : Moment}
    (hlater : t ≤ now.instant) :
    verify secret now token =
      if expiry t lifetime ≤ now.instant then .error .expired
      else .ok ⟨a.id, a.username, a.email, .utc (expiry t lifetime)⟩ := by
  obtain ⟨rfl, hlifetime, hfirst, hlast⟩ := eq_sign_of_issue h
  have hissued : t / Moment.second * Moment.second ≤ now.instant :=
    Int.le_trans (Int.ediv_mul_le t (by decide)) hlater
  have hflat : Flat (claimFields a (t / Moment.second) (t / Moment.second + lifetime)) :=
    flat_claimFields (by omega) (by omega)
  rw [verify, openClaims_sign secret hflat, ok_bind, checkClaims_claimFields hissued]
  change (if expiry t lifetime ≤ now.instant then _ else _) >>= _ = _
  split
  · rfl
  · have hid : Uuid.parseLoose? (((Json.lookup? (claimFields a (t / Moment.second)
        (t / Moment.second + lifetime)) "userId").getD .null).display) = some a.id :=
      Uuid.parseLoose_text a.id
    have hexpires : expiryOf ((Json.lookup? (claimFields a (t / Moment.second)
        (t / Moment.second + lifetime)) "exp").getD .null) = .ok (.utc (expiry t lifetime)) :=
      momentOf_seconds hfirst hlast
    simp only [ok_bind, hid, hexpires]
    rfl

end Issued

end Token

/-- The counters of a row are in the bounds in which they can be read. -/
def Account.Readable (a : Account) : Prop :=
  (Store.fits a.reviewsCount = true ∧ 0 ≤ a.reviewsCount) ∧
    Store.fits a.filesReviewed = true ∧ 0 ≤ a.filesReviewed

instance (a : Account) : Decidable a.Readable := inferInstanceAs (Decidable (_ ∧ _))

theorem Store.loadRow_of_readable {a : Account} (h : a.Readable) : loadRow a = .ok a :=
  loadRow_eq_ok_iff.mpr ⟨h.1, h.2, rfl⟩

theorem Store.loadRow_of_not_readable {row : Account} (h : ¬row.Readable) :
    ∃ problems, loadRow row = .error (.unreadable problems) := by
  cases hload : loadRow row with
  | ok a =>
    obtain ⟨hr, hf, -⟩ := loadRow_eq_ok_iff.mp hload
    exact absurd ⟨hr, hf⟩ h
  | error fault =>
    unfold loadRow at hload
    dsimp only at hload
    split at hload
    · cases hload
    · next problems _ =>
      cases hload
      exact ⟨problems, rfl⟩

theorem Store.getAccount_of_not_readable {s : Store} {id : Uuid} {row : Account}
    (hrow : s.row? id = some row) (h : ¬row.Readable) :
    ∃ problems, s.getAccount id = .error (.unreadable problems) := by
  obtain ⟨problems, hload⟩ := loadRow_of_not_readable h
  rw [getAccount_eq, hrow]
  dsimp only
  exact ⟨problems, by rw [hload]; rfl⟩

namespace Desk

variable {σ : Type}

/-! ## Who has the token -/

/-- The caller is not said to be anybody else. -/
def CallerFits (caller : Option String) (id : Uuid) : Prop :=
  ∀ text, caller = some text → Uuid.parseLoose? text = some id

/-- The result is a failure of a kind that the caller is told of. -/
def Refused (result : Except Failure Account) (kind : String) (status : Nat) : Prop :=
  ∃ failure, result = .error failure ∧ failure.verdict? = some (kind, status)

theorem refused_checkCaller {caller : Option String} {id : Uuid} {failure : Failure}
    (h : checkCaller caller id = .error failure) :
    failure.verdict? = some ("PermissionDeniedError", 403) := by
  unfold checkCaller at h
  split at h
  · cases h
  · split at h
    · cases h
      rfl
    · split at h
      · cases h
      · cases h
        rfl

section Holder

variable {settings : Settings} {d : Desk σ} {token : String} {claims : Token.Claims}
variable {caller : Option String}

theorem outcome_authenticate_stranger {failure : Failure}
    (hverify : Token.verify settings.secret d.now token = .ok claims)
    (hcaller : checkCaller caller claims.userId = .error failure) :
    outcome (authenticate settings token caller) d = (.error failure, d) := by
  rw [authenticate, outcome_bind_ok (outcome_clock d), hverify]
  dsimp only
  rw [hcaller]
  exact outcome_fail d _

/-- With a good token and no other caller, all depends on what is stored. -/
theorem outcome_authenticate_caller
    (hverify : Token.verify settings.secret d.now token = .ok claims)
    (hcaller : CallerFits caller claims.userId) :
    outcome (authenticate settings token caller) d =
      (match d.store.getAccount claims.userId with
        | .error fault => .error (.store fault)
        | .ok none => .error .orphanToken
        | .ok (some a) => if a.isActive then .ok a else .error .disabled, d) := by
  have hlook := outcome_look d (Store.getAccount claims.userId)
  rw [authenticate, outcome_bind_ok (outcome_clock d), hverify]
  dsimp only
  rw [Service.checkCaller_eq_ok_iff.mpr hcaller]
  dsimp only
  cases hstored : d.store.getAccount claims.userId with
  | error fault =>
    rw [hstored] at hlook
    exact outcome_bind_error hlook
  | ok found =>
    rw [hstored] at hlook
    rw [outcome_bind_ok hlook]
    cases found with
    | none => exact outcome_fail d _
    | some a => by_cases hactive : a.isActive <;> simp [hactive]

/-- Whatever became of the store since a token was issued, it gives the row of the account that it
was issued to if and only if it has not expired, the caller is not said to be anybody else, and that
row is there, can be read and is active. Otherwise it is turned away, for the first reason in this
order, and in no case does it give a row of another account or change anything. -/
theorem authenticate_issued {u : Account} {t : Int}
    (hissue : Token.issue settings.secret settings.tokenLifetime (.utc t) u = .ok token)
    (hlater : t ≤ d.now.instant) (caller : Option String) :
    ∃ result, outcome (authenticate settings token caller) d = (result, d) ∧
      (∀ a, result = .ok a ↔
        d.now.instant < Token.expiry t settings.tokenLifetime ∧ CallerFits caller u.id ∧
          d.store.row? u.id = some a ∧ a.Readable ∧ a.isActive = true) ∧
      (∀ a, result = .ok a → a.id = u.id) ∧
      (Token.expiry t settings.tokenLifetime ≤ d.now.instant →
        Refused result "AuthenticationError" 401) ∧
      (d.now.instant < Token.expiry t settings.tokenLifetime →
        (¬CallerFits caller u.id → Refused result "PermissionDeniedError" 403) ∧
        (CallerFits caller u.id →
          (d.store.row? u.id = none → Refused result "AuthenticationError" 401) ∧
          ∀ a, d.store.row? u.id = some a →
            (¬a.Readable → ∃ problems, result = .error (.store (.unreadable problems))) ∧
            (a.Readable → a.isActive = false → Refused result "PermissionDeniedError" 403))) := by
  have hverify := Token.verify_issue hissue hlater
  by_cases hexpired : Token.expiry t settings.tokenLifetime ≤ d.now.instant
  · rw [if_pos hexpired] at hverify
    have hnot := Int.not_lt.mpr hexpired
    refine ⟨_, Service.outcome_authenticate_error caller hverify, ?_⟩
    simp [hnot, Refused, Failure.verdict?]
  rw [if_neg hexpired] at hverify
  have hcurrent := Int.not_le.mp hexpired
  by_cases hfits : CallerFits caller u.id
  · have houtcome := outcome_authenticate_caller hverify hfits
    cases hrow : d.store.row? u.id with
    | none =>
      have hstored : d.store.getAccount u.id = .ok none := by rw [Store.getAccount_eq, hrow]
      rw [hstored] at houtcome
      refine ⟨_, houtcome, ?_⟩
      simp [hexpired, hfits, Refused, Failure.verdict?]
    | some row =>
      by_cases hreadable : row.Readable
      · have hstored := Store.getAccount_eq_ok_iff.mpr ⟨hrow, hreadable⟩
        have hid : row.id = u.id := Store.row?_id hrow
        rw [hstored] at houtcome
        refine ⟨_, houtcome, ?_⟩
        by_cases hactive : row.isActive = true
        · simp [hactive, hexpired, hcurrent, hfits, hreadable, hid]
        · simp [hactive, hexpired, hcurrent, hfits, hreadable, Refused, Failure.verdict?]
      · obtain ⟨problems, hstored⟩ := Store.getAccount_of_not_readable hrow hreadable
        rw [hstored] at houtcome
        refine ⟨_, houtcome, ?_⟩
        simp [hexpired, hcurrent, hfits, hreadable]
  · cases hcaller : checkCaller caller u.id with
    | ok => exact absurd (Service.checkCaller_eq_ok_iff.mp hcaller) hfits
    | error failure =>
      refine ⟨_, outcome_authenticate_stranger hverify hcaller, ?_⟩
      simp [hexpired, hfits, Refused, refused_checkCaller hcaller]

end Holder

section Example

/-- Tokens are good for a minute. -/
def minuteSettings : Settings where
  secret := "secret"
  tokenLifetime := 60

def registerAda : Operation := .register "ada" "ada@example.com" "password" none

/-- A desk after some operations, with its clock at a time in microseconds. -/
def deskAt (ops : List Operation) (time : Int) : Desk Model.Script :=
  { newDesk [] with store := storeAfter [] ops, now := .utc time }

/-- The account that is registered first. -/
def ada : Account where
  id := Uuid.ofNat 2
  username := "ada"
  email := "ada@example.com"
  createdAt := ⟨0, some 0⟩
  updatedAt := ⟨0, some 0⟩

/-- A token that is issued within the first second is good to the end of the sixtieth. It is not
good for the account that is registered under the same name and address after the first one is
deleted. -/
theorem authenticate_issued_reusedName :
    ∃ token, Token.issue minuteSettings.secret minuteSettings.tokenLifetime (.utc 900000) ada =
        .ok token ∧
      (∃ a, outcome (authenticate minuteSettings token none) (deskAt [registerAda] 59999999) =
        (.ok a, deskAt [registerAda] 59999999) ∧ a.id = ada.id) ∧
      Refused (outcome (authenticate minuteSettings token none) (deskAt [registerAda] 60000000)).1
        "AuthenticationError" 401 ∧
      Refused (outcome (authenticate minuteSettings token none)
        (deskAt [registerAda, .deleteAccount ada.id, registerAda] 59999999)).1
          "AuthenticationError" 401 := by
  obtain ⟨token, hissue⟩ : ∃ token, Token.issue minuteSettings.secret
      minuteSettings.tokenLifetime (.utc 900000) ada = .ok token :=
    Token.exists_issue _ _ (by decide) (by decide)
  have hnone : CallerFits none ada.id := by
    rintro _ ⟨⟩
  refine ⟨token, hissue, ?_, ?_, ?_⟩
  · have hstored : ((deskAt [registerAda] 59999999).store.row? ada.id).any
        (fun a => decide a.Readable && a.isActive) = true := by decide +kernel
    obtain ⟨a, hrow, hgood⟩ := (Option.any_eq_true _ _).mp hstored
    rw [Bool.and_eq_true, decide_eq_true_eq] at hgood
    obtain ⟨result, hresult, hok, hid, -⟩ :=
      authenticate_issued (d := deskAt [registerAda] 59999999) hissue (by decide) none
    have ha := (hok a).mpr ⟨by decide, hnone, hrow, hgood.1, hgood.2⟩
    rw [ha] at hresult
    exact ⟨a, hresult, hid a ha⟩
  · obtain ⟨result, hresult, -, -, hexpired, -⟩ :=
      authenticate_issued (d := deskAt [registerAda] 60000000) hissue (by decide) none
    rw [hresult]
    exact hexpired (by decide)
  · obtain ⟨result, hresult, -, -, -, hcurrent⟩ :=
      authenticate_issued (d := deskAt [registerAda, .deleteAccount ada.id, registerAda] 59999999)
        hissue (by decide) none
    rw [hresult]
    exact ((hcurrent (by decide)).2 hnone).1 (by decide +kernel)

/-- An account without a quota whose count of reviews is at the end of its room. -/
def fullAccount : Account :=
  { ada with tier := .premium, reviewsCount := 2 ^ 63 - 1 }

/-- A desk where that account has taken one more place for a review. -/
def fullDesk : Desk Model.Script :=
  { newDesk [] with store := (Store.reserveReview (.utc 0) fullAccount.id ⟨[fullAccount], []⟩).2 }

/-- A row whose count has left its room is there and active, and yet no token gives it. -/
theorem authenticate_fullAccount :
    ∃ token, Token.issue minuteSettings.secret minuteSettings.tokenLifetime (.utc 0) fullAccount =
        .ok token ∧
      fullDesk.now.instant < Token.expiry 0 minuteSettings.tokenLifetime ∧
      (∃ a, fullDesk.store.row? fullAccount.id = some a ∧ a.isActive = true) ∧
      ∃ problems, outcome (authenticate minuteSettings token none) fullDesk =
        (.error (.store (.unreadable problems)), fullDesk) := by
  obtain ⟨token, hissue⟩ : ∃ token, Token.issue minuteSettings.secret
      minuteSettings.tokenLifetime (.utc 0) fullAccount = .ok token :=
    Token.exists_issue _ _ (by decide) (by decide)
  have hstored : (fullDesk.store.row? fullAccount.id).any
      (fun a => !decide a.Readable && a.isActive) = true := by decide +kernel
  obtain ⟨a, hrow, hactive⟩ := (Option.any_eq_true _ _).mp hstored
  rw [Bool.and_eq_true, Bool.not_eq_true', decide_eq_false_iff_not] at hactive
  obtain ⟨problems, hfault⟩ := Store.getAccount_of_not_readable hrow hactive.1
  have hlater : 0 ≤ fullDesk.now.instant := by decide
  have hverify := Token.verify_issue hissue hlater
  rw [if_neg (by decide)] at hverify
  refine ⟨token, hissue, by decide, ⟨a, hrow, hactive.2⟩, problems, ?_⟩
  rw [outcome_authenticate_caller hverify (by rintro _ ⟨⟩), hfault]

end Example

end Desk

end ReviewDesk
