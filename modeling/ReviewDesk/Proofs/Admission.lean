import Mathlib
import ReviewDesk.Proofs.Logins

/-!
# Bodies that are let through

The body of a request is checked on its own, before anything is made from it. What its reader lets
through is within the bounds of the records that are made from it: an account, the changes of an
account and a review. The only values that a record does not take are then those of rows in the
store.
-/
namespace ReviewDesk

namespace Uuid

theorem groups_eq (cs : List Char) : groups cs = cs.splitOn '-' := by
  induction cs with
  | nil => rfl
  | cons c rest ih =>
    rw [List.splitOn_cons_eq_if_modifyHead, groups, List.foldr_cons, ← groups, ih]
    split
    · rfl
    · cases hrest : rest.splitOn '-' with
      | nil => exact absurd hrest (List.splitOn_ne_nil _ _)
      | cons g gs => rfl

theorem flatten_groups (cs : List Char) : (groups cs).flatten = cs.filter (· != '-') := by
  induction cs with
  | nil => rfl
  | cons c rest ih =>
    rw [groups, List.foldr_cons, ← groups]
    by_cases hc : c = '-'
    · simp [hc, ih]
    · cases hrest : groups rest with
      | nil =>
        rw [groups_eq] at hrest
        exact absurd hrest (List.splitOn_ne_nil _ _)
      | cons g gs =>
        rw [hrest] at ih
        simpa [hc] using ih

theorem unwrap_of_not_mem {cs : List Char} (hbrace : '\x7b' ∉ cs) (hu : 'u' ∉ cs) :
    unwrap cs = (cs, 0, false) := by
  unfold unwrap
  split
  · exact absurd List.mem_cons_self hbrace
  · have hscheme : "urn:uuid:".toList.isPrefixOf cs = false := by
      rw [← Bool.not_eq_true, List.isPrefixOf_iff_prefix]
      exact fun h => hu (h.subset (by decide))
    simp only [hscheme, Bool.false_eq_true, ↓reduceIte]

theorem mem_text {u : Uuid} {c : Char} (h : c ∈ u.text.toList) : c = '-' ∨ c ∈ u.digits := by
  by_cases hdash : c = '-'
  · exact .inl hdash
  · right
    rw [← filter_text]
    exact List.mem_filter.mpr ⟨h, bne_iff_ne.mpr hdash⟩

theorem not_mem_text {u : Uuid} {c : Char} (hmark : c ∈ marks) (hdash : c ≠ '-') :
    c ∉ u.text.toList := fun h =>
  (mem_text h).elim hdash (u.hex_digits.not_mem hmark)

theorem splitOn_text (u : Uuid) : u.text.toList.splitOn '-' =
    [u.digits.take 8, (u.digits.drop 8).take 4, (u.digits.drop 12).take 4,
      (u.digits.drop 16).take 4, (u.digits.drop 20).take 12] := by
  have hgroup (start size : Nat) : '-' ∉ (u.digits.drop start).take size := fun h =>
    u.hex_digits.not_mem (by decide) (List.mem_of_mem_drop (List.mem_of_mem_take h))
  have hfirst : '-' ∉ u.digits.take 8 := hgroup 0 8
  rw [toList_text, List.splitOn_append_cons_self, List.splitOn_append_cons_self,
    List.splitOn_append_cons_self, List.splitOn_append_cons_self, List.splitOn_eq_singleton hfirst,
    List.splitOn_eq_singleton (hgroup 8 4), List.splitOn_eq_singleton (hgroup 12 4),
    List.splitOn_eq_singleton (hgroup 16 4), List.splitOn_eq_singleton (hgroup 20 12)]
  rfl

theorem stray_eq_none {cs : List Char}
    (h : ∀ c ∈ cs, (c == '-' || (Json.hexDigit? c).isSome) = true) (offset : Nat) :
    stray? offset cs = none := by
  induction cs generalizing offset with
  | nil => rfl
  | cons c rest ih =>
    rw [List.forall_mem_cons] at h
    rw [stray?, if_pos h.1, ih h.2]

/-- The strict reader reads the text of an identifier as the identifier. -/
theorem parse_text (u : Uuid) : parse u.text = .ok u := by
  have hwrap : unwrap u.text.toList = (u.text.toList, 0, false) :=
    unwrap_of_not_mem (not_mem_text (by decide) (by decide)) (not_mem_text (by decide) (by decide))
  have hgood : ∀ c ∈ u.text.toList, (c == '-' || (Json.hexDigit? c).isSome) = true := by
    intro c hc
    obtain rfl | hdigit := mem_text hc
    · rfl
    · obtain ⟨d, hd, rfl⟩ := u.hex_digits c hdigit
      rw [(hexDigit_digitChar d hd).1, Option.isSome_some, Bool.or_true]
  have hlengths : (groups u.text.toList).map List.length = groupLengths := by
    rw [groups_eq, splitOn_text]
    simp [groupLengths, length_digits]
  have hstray : stray? 0 u.text.toList = none := stray_eq_none hgood 0
  have hvalue : ofNat (hexNumber u.digits) = u := by
    rw [digits, hexNumber_hexText, ofNat, BitVec.ofNat_toNat, BitVec.setWidth_eq]
  simp only [parse, hwrap, hstray, hlengths, flatten_groups, filter_text, hvalue,
    Option.isNone_none, BEq.rfl, Bool.and_self, ↓reduceIte]

end Uuid

namespace Account

/-- The fields of a new account. -/
def newFields (username email hash : String) (fullName : Option String) (verified : Bool) :
    List (String × Json) :=
  [("username", .str username), ("email", .str email), ("password_hash", .str hash),
    ("full_name", Json.ofText fullName), ("role", .str Role.user.name),
    ("subscription_tier", .str Tier.free.name), ("email_verified", .bool verified)]

/-- The fields that are assigned when an account becomes special. -/
def specialFields (limit : Option Int) : List (String × Json) :=
  [("is_special_user", .bool true), ("usage_limit", Json.ofOption .int limit)]

/-- The fields that are assigned by an update, one after the other. -/
def updateFields (u : Update) (a : Account) : List (String × Json) :=
  u.fullName.toList.map (fun name => ("full_name", .str name)) ++
  (u.role.toList.map (fun role => ("role", .str role.name)) ++
  (u.tier.toList.map (fun tier => ("subscription_tier", .str tier.name)) ++
  (u.isActive.toList.map (fun flag => ("is_active", .bool flag)) ++
  match u.isSpecial with
  | some true => specialFields u.usageLimit
  | some false => [("is_special_user", .bool false), ("usage_limit", .null)]
  | none =>
    if a.isSpecial then u.usageLimit.toList.map (fun n => ("usage_limit", .int n)) else [])))

/-- To read the fields of a new account is to make it, with the same checks. -/
theorem read_newFields (id : Uuid) (now : Moment) (username email hash : String)
    (fullName : Option String) (verified : Bool) :
    read id now (newFields username email hash fullName verified) =
      (make id now username email).map fun a =>
        { a with passwordHash := some hash, fullName, emailVerified := verified } := by
  have husername : Field.required (newFields username email hash fullName verified) "username"
      readUsername = (Field.checkLength (some 1) (some usernameLimit) username).under "username" :=
    rfl
  have hemail : Field.required (newFields username email hash fullName verified) "email"
      readEmail = (Field.checkLength (some 3) (some emailLimit) email).under "email" := rfl
  have hname : Field.optional (newFields username email hash fullName verified) "full_name" none
      readText = .good fullName := by
    cases fullName <;> rfl
  unfold read make
  rw [husername, hemail, hname]
  cases Field.checkLength (some 1) (some usernameLimit) username <;>
    cases Field.checkLength (some 3) (some emailLimit) email <;> rfl

theorem exists_read_newFields {id : Uuid} {now : Moment} {username email : String} {a : Account}
    (h : make id now username email = .good a) (hash : String) (fullName : Option String)
    (verified : Bool) :
    ∃ b, read id now (newFields username email hash fullName verified) = .good b := by
  rw [read_newFields, h]
  exact ⟨_, rfl⟩

section Assignments

variable {a b : Account} {rest : List (String × Json)}

theorem assignAll_cons {field : String} {v : Json} (h : a.assign field v = .good b) :
    a.assignAll ((field, v) :: rest) = b.assignAll rest := by
  rw [assignAll, h]

/-- A field that is assigned only if there is a value for it. -/
theorem assignAll_optional {α : Type} {field : String} {encode : α → Json} {set : α → Account}
    {asked : Option α} (h : ∀ x ∈ asked, a.assign field (encode x) = .good (set x))
    (hb : asked.elim a set = b) :
    a.assignAll (asked.toList.map (fun x => (field, encode x)) ++ rest) = b.assignAll rest := by
  subst hb
  cases asked with
  | none => rfl
  | some x => exact assignAll_cons (h x rfl)

theorem assign_role (a : Account) (role : Role) :
    a.assign "role" (.str role.name) = .good { a with role } := by
  cases role <;> rfl

theorem assign_tier (a : Account) (tier : Tier) :
    a.assign "subscription_tier" (.str tier.name) = .good { a with tier } := by
  cases tier <;> rfl

theorem assign_usageLimit (limit : Option Int) (h : ∀ n ∈ limit, 1 ≤ n) (a : Account) :
    a.assign "usage_limit" (Json.ofOption .int limit) = .good { a with usageLimit := limit } := by
  cases limit with
  | none => rfl
  | some n =>
    have hleast : Field.checkAtLeast 1 n = .good n := if_neg (Int.not_lt.mpr (h n rfl))
    change (((Field.checkAtLeast 1 n).map some).map _).under _ = _
    rw [hleast]
    rfl

/-- An account takes a limit that is positive. -/
theorem assignAll_specialFields {limit : Option Int} (h : ∀ n ∈ limit, 1 ≤ n) (a : Account) :
    a.assignAll (specialFields limit) = (a.makeSpecial limit, []) := by
  have hspecial : a.assign "is_special_user" (.bool true) = .good { a with isSpecial := true } :=
    rfl
  rw [specialFields, assignAll_cons hspecial, assignAll_cons (assign_usageLimit limit h _)]
  rfl

/-- An account takes every update with a positive limit. -/
theorem assignAll_updateFields {u : Update} (h : ∀ n ∈ u.usageLimit, 1 ≤ n) (a : Account) :
    a.assignAll (a.updateFields u) = (a.update u, []) := by
  have hname : ∀ name ∈ u.fullName, a.assign "full_name" (.str name) =
      .good { a with fullName := some name } := fun _ _ => rfl
  have hactive (a : Account) : ∀ flag ∈ u.isActive, a.assign "is_active" (.bool flag) =
      .good { a with isActive := flag } := fun _ _ => rfl
  have hlimit (a : Account) : ∀ n ∈ u.usageLimit, a.assign "usage_limit" (.int n) =
      .good { a with usageLimit := some n } := fun n hn =>
    assign_usageLimit (some n) (by rintro _ ⟨⟩; exact h n hn) a
  let named : Account := { a with fullName := u.fullName.or a.fullName }
  let ranked : Account := { named with role := u.role.getD a.role }
  let tiered : Account := { ranked with tier := u.tier.getD a.tier }
  let switched : Account := { tiered with isActive := u.isActive.getD a.isActive }
  rw [updateFields,
    assignAll_optional (b := named) hname (by cases hu : u.fullName <;> simp [named, hu]),
    assignAll_optional (b := ranked) (fun role _ => assign_role named role)
      (by cases hu : u.role <;> simp [ranked, named, hu]),
    assignAll_optional (b := tiered) (fun tier _ => assign_tier ranked tier)
      (by cases hu : u.tier <;> simp [tiered, ranked, named, hu]),
    assignAll_optional (b := switched) (hactive tiered)
      (by cases hu : u.isActive <;> simp [switched, tiered, ranked, named, hu])]
  have hupdate : a.update u = match u.isSpecial with
      | some true => switched.makeSpecial u.usageLimit
      | some false => switched.revokeSpecial
      | none => if switched.isSpecial then
          { switched with usageLimit := u.usageLimit.or switched.usageLimit } else switched := rfl
  rw [hupdate]
  match u.isSpecial with
  | some true => exact assignAll_specialFields h switched
  | some false => rfl
  | none =>
    have hspecial : switched.isSpecial = a.isSpecial := rfl
    dsimp only
    rw [hspecial]
    split
    · rw [← List.append_nil (u.usageLimit.toList.map _), assignAll_optional (hlimit switched) rfl]
      cases u.usageLimit <;> rfl
    · rfl

end Assignments

end Account

namespace Review

/-- The fields of a new review. -/
def newFields (reviewer : Uuid) (title : String) (description : Option String) :
    List (String × Json) :=
  [("reviewer_id", .str reviewer.text), ("title", .str title),
    ("description", Json.ofText description)]

/-- To read the fields of a new review is to make it, with the same checks. -/
theorem read_newFields (fresh : Nat → Uuid) (now : Moment) (reviewer : Uuid) (title : String)
    (description : Option String) :
    read fresh now (newFields reviewer title description) =
      make (fresh 0) now reviewer title description := by
  have hreviewer : Field.required (newFields reviewer title description) "reviewer_id"
      Field.identifier = .good reviewer := by
    change Checked.under "reviewer_id" (Field.identifier (.str reviewer.text)) = _
    rw [Field.identifier, Uuid.parse_text]
    rfl
  have htitle : Field.required (newFields reviewer title description) "title" readTitle =
      (Field.checkLength (some 1) (some titleLimit) title).under "title" := rfl
  have hdescription : Field.optional (newFields reviewer title description) "description" none
      readText = .good description := by
    cases description <;> rfl
  unfold read make
  rw [hreviewer, htitle, hdescription]
  cases Field.checkLength (some 1) (some titleLimit) title <;> rfl

end Review

namespace Service

theorem length_of_isEmail {s : String} (h : isEmail s = true) : 5 ≤ s.length := by
  unfold isEmail at h
  split at h
  · rename_i name domain hparts
    have hjoin : ['@'].intercalate (s.toList.splitOn '@') = s.toList := List.intercalate_splitOn '@'
    rw [hparts] at hjoin
    simp only [isAddressPart, Bool.and_eq_true, Bool.not_eq_true', List.isEmpty_eq_false_iff,
      List.contains_iff_mem] at h
    obtain ⟨⟨⟨hname, -⟩, -⟩, hdot⟩ := h
    have hdomain : 3 ≤ domain.length := by
      have hlength := List.length_pos_of_mem hdot
      rw [List.length_dropLast, List.length_drop] at hlength
      omega
    have hfirst : 1 ≤ name.length := List.length_pos_of_ne_nil hname
    rw [← String.length_toList, ← hjoin]
    simp [List.intercalate, List.intersperse]
    omega
  · cases h

/-- A text that is let through has a length between the bounds. -/
theorem length_of_required {fields : List (String × Json)} {key : Field.Key} {least most : Nat}
    {s : String}
    (h : Field.required fields key (Field.textBetween (some least) (some most)) = .good s) :
    least ≤ s.length ∧ s.length ≤ most := by
  obtain ⟨_, _, -, hread⟩ := Field.required_eq_good.mp h
  obtain ⟨_, -, hlength⟩ := Checked.andThen_eq_good.mp hread
  obtain ⟨hbounds, rfl⟩ := Field.checkLength_eq_good.mp hlength
  exact hbounds

/-- An address that is let through is longer than an account asks for, and shorter. -/
theorem length_of_readEmail {v : Json} {s : String} (h : readEmail v = .good s) :
    5 ≤ s.length ∧ s.length ≤ 100 := by
  obtain ⟨email, htext, hemail⟩ := Checked.andThen_eq_good.mp h
  obtain ⟨_, -, hlength⟩ := Checked.andThen_eq_good.mp htext
  rw [Field.checkLength] at hlength
  split_ifs at hlength with hlong
  · exact ((Checked.fail_eq_good _).mp hlength).elim
  obtain rfl := Checked.good.inj hlength
  split_ifs at hemail with hmatches
  · obtain rfl := Checked.good.inj hemail
    exact ⟨length_of_isEmail hmatches, Nat.not_lt.mp hlong⟩
  · exact ((Checked.fail_eq_good _).mp hemail).elim

/-- An account takes the name and the address of a registration that is let through. -/
theorem Registration.make_of_read {fields : List (String × Json)} {r : Registration}
    (h : Registration.read fields = .good r) (id : Uuid) (now : Moment) :
    Account.make id now r.username r.email = .good {
      id, username := r.username, email := r.email, createdAt := now, updatedAt := now } := by
  simp only [Registration.read, Checked.seq_eq_good, Checked.map_eq_good] at h
  obtain ⟨_, _, ⟨_, _, ⟨_, _, ⟨username, husername, rfl⟩, hemail, rfl⟩, -, rfl⟩, -, rfl⟩ := h
  obtain ⟨hleast, hmost⟩ := length_of_required husername
  obtain ⟨_, _, -, hread⟩ := Field.required_eq_good.mp hemail
  obtain ⟨hemailLeast, hemailMost⟩ := length_of_readEmail hread
  have hthree : 1 ≤ 3 ∧ 3 ≤ 5 ∧ 100 ≤ Account.emailLimit := by decide
  exact Account.make_eq_good_iff.mpr ⟨⟨hthree.1.trans hleast, hmost⟩,
    ⟨hthree.2.1.trans hemailLeast, hemailMost.trans hthree.2.2⟩, rfl⟩

theorem SpecialRegistration.make_of_read {fields : List (String × Json)} {r : SpecialRegistration}
    (h : SpecialRegistration.read fields = .good r) (id : Uuid) (now : Moment) :
    Account.make id now r.username r.email = .good {
      id, username := r.username, email := r.email, createdAt := now, updatedAt := now } := by
  simp only [SpecialRegistration.read, Checked.seq_eq_good, Checked.map_eq_good] at h
  obtain ⟨_, _, ⟨registration, hregistration, rfl⟩, -, rfl⟩ := h
  exact Registration.make_of_read hregistration id now

/-- A review takes the title of an order that is let through. -/
theorem ReviewOrder.make_of_read {fields : List (String × Json)} {o : ReviewOrder}
    (h : ReviewOrder.read fields = .good o) (id : Uuid) (now : Moment) (reviewer : Uuid) :
    Review.make id now reviewer o.title o.description = .good {
      id, reviewerId := reviewer, title := o.title, description := o.description,
      createdAt := now } := by
  simp only [ReviewOrder.read, Checked.seq_eq_good, Checked.map_eq_good] at h
  obtain ⟨_, _, ⟨_, _, ⟨title, htitle, rfl⟩, -, rfl⟩, -, rfl⟩ := h
  obtain ⟨hleast, hmost⟩ := length_of_required htitle
  have hlength : Field.checkLength (some 1) (some Review.titleLimit) title = .good title :=
    Field.checkLength_eq_good.mpr ⟨⟨by omega, hmost⟩, rfl⟩
  rw [Review.make, hlength]
  rfl

end Service

/-- The failure is that of a record that does not take a value. -/
def Failure.isInvalid : Failure → Bool
  | .invalid _ => true
  | .store (.unreadable _) => true
  | _ => false

namespace Store

/-- The row of an e-mail address. -/
def addressed? (email : String) (s : Store) : Option Account :=
  s.accounts.find? fun a => foldEmail a.email == foldEmail email

theorem checkFindings_ne_unreadable {taken : List Uuid} {findings : List Finding}
    {problems : List Problem} : checkFindings taken findings ≠ .error (.unreadable problems) := by
  fun_induction checkFindings taken findings with
  | case1 => simp
  | case2 => simp
  | case3 => simp
  | case4 _ _ _ _ _ ih => exact ih

theorem saveReview_ne_unreadable {s : Store} {r : Review} {problems : List Problem} :
    s.saveReview r ≠ .error (.unreadable problems) := by
  unfold saveReview
  split_ifs
  · simp
  · simp
  · split
    · rename_i fault hfault
      rintro ⟨⟩
      exact checkFindings_ne_unreadable hfault
    · simp

/-- One of the rows that are looked up before an account is added cannot be read: that of its name,
or else that of its address. -/
def Blocks (username email : String) (s : Store) : Prop :=
  (∃ a ∈ s.named? username, ¬a.Readable) ∨
    s.named? username = none ∧ ∃ a ∈ s.addressed? email, ¬a.Readable

end Store

namespace Desk

variable {σ α β : Type} {d : Desk σ}

/-- The task ends because a record does not take a value. -/
def Breaks (t : Task σ α) (d : Desk σ) : Prop :=
  ∃ failure d', outcome t d = (.error failure, d') ∧ failure.isInvalid = true

theorem not_breaks_of_ok {t : Task σ α} {d' : Desk σ} {a : α} (h : outcome t d = (.ok a, d')) :
    ¬Breaks t d := by
  rintro ⟨failure, d'', hfails, -⟩
  rw [h] at hfails
  cases hfails

theorem breaks_of_error {t : Task σ α} {d' : Desk σ} {failure : Failure}
    (h : outcome t d = (.error failure, d')) : Breaks t d ↔ failure.isInvalid = true := by
  constructor
  · rintro ⟨failure', d'', hfails, hinvalid⟩
    rw [h] at hfails
    cases hfails
    exact hinvalid
  · exact fun hinvalid => ⟨failure, d', h, hinvalid⟩

theorem breaks_bind_ok {t : Task σ α} {next : α → Task σ β} {d' : Desk σ} {a : α}
    (h : outcome t d = (.ok a, d')) : Breaks (t >>= next) d ↔ Breaks (next a) d' := by
  unfold Breaks
  rw [outcome_bind_ok h]

/-- What cannot break makes no difference. -/
theorem breaks_bind_iff {t : Task σ α} {next : α → Task σ β}
    (hnext : ∀ a d', ¬Breaks (next a) d') : Breaks (t >>= next) d ↔ Breaks t d := by
  rcases houtcome : outcome t d with ⟨failure | a, d'⟩
  · rw [breaks_of_error houtcome, breaks_of_error (outcome_bind_error houtcome)]
  · rw [breaks_bind_ok houtcome]
    exact iff_of_false (hnext a d') (not_breaks_of_ok houtcome)

theorem not_breaks_bind {t : Task σ α} {next : α → Task σ β} (ht : ¬Breaks t d)
    (hnext : ∀ a d', ¬Breaks (next a) d') : ¬Breaks (t >>= next) d :=
  (breaks_bind_iff hnext).not.mpr ht

theorem not_breaks_fail {failure : Failure} (h : failure.isInvalid = false) (d : Desk σ) :
    ¬Breaks (fail failure : Task σ α) d := by
  rw [breaks_of_error (outcome_fail d failure), h]
  exact Bool.false_ne_true

theorem not_breaks_hashPassword (settings : Settings) (password : String) (d : Desk σ) :
    ¬Breaks (hashPassword settings password) d := by
  rw [hashPassword, breaks_bind_ok (outcome_freshId d)]
  split
  · exact not_breaks_of_ok (outcome_pure _ _)
  · exact not_breaks_fail rfl _

theorem not_breaks_change {operation : Store → Except Store.Fault (α × Store)}
    (h : ∀ problems, operation d.store ≠ .error (.unreadable problems)) :
    ¬Breaks (change operation) d := by
  cases hoperation : operation d.store with
  | ok done => exact not_breaks_of_ok (outcome_change_ok d hoperation)
  | error fault =>
    rw [breaks_of_error (outcome_change_error d hoperation)]
    cases fault with
    | unreadable problems => exact absurd hoperation (h problems)
    | _ => simp [Failure.isInvalid]

theorem not_breaks_saveAccount (a : Account) (d : Desk σ) : ¬Breaks (saveAccount a) d := by
  rw [saveAccount, breaks_bind_ok (outcome_clock d)]
  refine not_breaks_change fun problems => ?_
  unfold Store.saveAccount
  dsimp only
  split_ifs <;> simp

/-- A row that is looked up is given if it can be read. -/
theorem outcome_look_row {query : Store → Except Store.Fault (Option Account)}
    {p : Account → Bool} (hquery : ∀ s, query s = Store.loadFirst (s.accounts.filter p))
    (h : ∀ a ∈ d.store.accounts.find? p, a.Readable) :
    outcome (look query) d = (.ok (d.store.accounts.find? p), d) := by
  rw [outcome_look, hquery, Store.loadFirst_filter]
  cases hrow : d.store.accounts.find? p with
  | none => rfl
  | some a =>
    dsimp only
    rw [Store.loadRow_of_readable (h a hrow)]
    rfl

theorem breaks_look_row {query : Store → Except Store.Fault (Option Account)}
    {p : Account → Bool} (hquery : ∀ s, query s = Store.loadFirst (s.accounts.filter p))
    {next : Option Account → Task σ β} (h : ∃ a ∈ d.store.accounts.find? p, ¬a.Readable) :
    Breaks (look query >>= next) d := by
  obtain ⟨a, hrow, hunreadable⟩ := h
  obtain ⟨problems, hload⟩ := Store.loadRow_of_not_readable hunreadable
  have hlook : outcome (look query) d = (.error (.store (.unreadable problems)), d) := by
    rw [outcome_look, hquery, Store.loadFirst_filter, hrow]
    dsimp only
    rw [hload]
    rfl
  exact ⟨_, _, outcome_bind_error hlook, rfl⟩

theorem breaks_checkAvailable_iff (username email : String) (d : Desk σ) :
    Breaks (checkAvailable username email) d ↔ d.store.Blocks username email := by
  unfold checkAvailable
  by_cases hname : ∃ a ∈ d.store.named? username, ¬a.Readable
  · exact iff_of_true (breaks_look_row (fun _ => rfl) hname) (.inl hname)
  have hnamed : outcome (look (Store.accountNamed username)) d =
      (.ok (d.store.named? username), d) :=
    outcome_look_row (fun _ => rfl) fun a ha => by_contra fun h => hname ⟨a, ha, h⟩
  rw [breaks_bind_ok hnamed, Store.Blocks, or_iff_right hname]
  cases hrow : d.store.named? username with
  | some a =>
    simp only [Option.isSome_some, ↓reduceIte, reduceCtorEq, false_and, iff_false]
    rw [breaks_of_error (outcome_bind_error (outcome_fail d _))]
    exact Bool.false_ne_true
  | none =>
    simp only [Option.isSome_none, Bool.false_eq_true, ↓reduceIte, true_and]
    by_cases hemail : ∃ a ∈ d.store.addressed? email, ¬a.Readable
    · exact iff_of_true (breaks_look_row (fun _ => rfl) hemail) hemail
    have haddressed : outcome (look (Store.accountWithEmail email)) d =
        (.ok (d.store.addressed? email), d) :=
      outcome_look_row (fun _ => rfl) fun a ha => by_contra fun h => hemail ⟨a, ha, h⟩
    rw [breaks_bind_ok haddressed, iff_false_right hemail]
    split
    · exact not_breaks_fail rfl d
    · exact not_breaks_of_ok (outcome_pure () d)

/-- An account with a name and an address that fit is refused for its values only if a row that is
looked up cannot be read. -/
theorem breaks_addAccount_iff (settings : Settings) {username email : String}
    (hmake : ∀ id now, ∃ a, Account.make id now username email = .good a) (password : String)
    (fullName : Option String) (finish : Account → Account) (d : Desk σ) :
    Breaks (addAccount settings username email password fullName finish) d ↔
      d.store.Blocks username email := by
  rw [← breaks_checkAvailable_iff, addAccount]
  refine breaks_bind_iff fun _ d₁ => not_breaks_bind (not_breaks_hashPassword _ _ _) fun _ d₂ => ?_
  rw [breaks_bind_ok (outcome_freshId d₂), breaks_bind_ok (outcome_clock _)]
  obtain ⟨a, ha⟩ := hmake (d₂.ids d₂.used) d₂.now
  dsimp only
  rw [ha, breaks_bind_ok (outcome_checked_good _ a)]
  exact not_breaks_saveAccount _ _

/-- An update is refused for its values only if the row cannot be read. -/
theorem breaks_updateAccount_iff (id : Uuid) (u : Account.Update) (d : Desk σ) :
    Breaks (updateAccount id u) d ↔ ∃ a ∈ d.store.row? id, ¬a.Readable := by
  rw [updateAccount, breaks_bind_iff fun a d' => not_breaks_saveAccount _ d']
  unfold accountOf
  by_cases hrow : ∃ a ∈ d.store.row? id, ¬a.Readable
  · exact iff_of_true (breaks_look_row (fun _ => rfl) hrow) hrow
  have hlook : outcome (look (Store.getAccount id)) d = (.ok (d.store.row? id), d) :=
    outcome_look_row (fun _ => rfl) fun a ha => by_contra fun h => hrow ⟨a, ha, h⟩
  rw [breaks_bind_ok hlook, iff_false_right hrow]
  split
  · exact not_breaks_of_ok (outcome_pure _ d)
  · exact not_breaks_fail rfl d

theorem not_breaks_saveReview (r : Review) (d : Desk σ) : ¬Breaks (saveReview r) d := by
  refine not_breaks_change fun problems h => ?_
  cases hsave : d.store.saveReview r with
  | ok s => rw [hsave] at h; cases h
  | error fault =>
    rw [hsave] at h
    cases h
    exact Store.saveReview_ne_unreadable hsave

theorem not_breaks_finish (m : Model σ) (caller : Account) (files : Files) (r : Review)
    (d : Desk σ) : ¬Breaks (finish m caller files r) d := by
  have hfound : ∃ result d', outcome (analyse m files r) d = (.ok result, d') := by
    rw [outcome_analyse]
    split <;> exact ⟨_, _, rfl⟩
  obtain ⟨result, d', hanalysed⟩ := hfound
  rw [finish, breaks_bind_ok hanalysed]
  cases result with
  | ok found =>
    refine not_breaks_bind ?_ fun _ d₁ => not_breaks_of_ok (outcome_pure _ d₁)
    refine not_breaks_bind (not_breaks_saveReview _ d') fun _ d₁ => ?_
    rw [breaks_bind_ok (outcome_clock d₁)]
    refine not_breaks_change fun problems => ?_
    unfold Store.addFiles
    split_ifs <;> simp [Except.map]
  | error setback =>
    dsimp only
    refine not_breaks_bind ?_ fun _ d₁ => not_breaks_fail rfl d₁
    rw [abandon, breaks_bind_ok (outcome_clock d'), breaks_bind_ok (outcome_adjust d' _)]
    exact not_breaks_saveReview _ _

/-- A review with a title that fits is never refused for its values. -/
theorem not_breaks_createReview (m : Model σ) (caller : Account) {title : String}
    {description : Option String}
    (hmake : ∀ id now, ∃ r, Review.make id now caller.id title description = .good r)
    (files : Files) (d : Desk σ) : ¬Breaks (createReview m caller title description files) d := by
  have hopen (d : Desk σ) : ¬Breaks (openReview caller title description) d := by
    obtain ⟨r, hr⟩ := hmake (d.ids d.used) d.now
    rw [openReview, breaks_bind_ok (outcome_freshId d), breaks_bind_ok (outcome_clock _)]
    dsimp only
    rw [hr, breaks_bind_ok (outcome_checked_good _ r)]
    exact not_breaks_bind (not_breaks_saveReview r _) fun _ d' =>
      not_breaks_of_ok (outcome_pure r d')
  have hreserve (d : Desk σ) : ¬Breaks (reserve caller) d := by
    rw [reserve, breaks_bind_ok (outcome_clock d), breaks_bind_ok (outcome_adjust d _)]
    split
    · exact not_breaks_fail rfl _
    · exact not_breaks_of_ok (outcome_pure () _)
  unfold createReview
  split
  · rename_i failure hrefused
    refine not_breaks_fail ?_ d
    unfold checkAdmission at hrefused
    split at hrefused
    · cases hrefused
      rfl
    · split at hrefused
      · split at hrefused <;> cases hrefused
        rfl
      · cases hrefused
  · exact not_breaks_bind (hreserve d) fun _ d₁ =>
      not_breaks_bind (hopen d₁) fun r d₂ => not_breaks_finish m caller files r d₂

open Service (Registration SpecialRegistration ReviewOrder readUpdate)

/-- The body of a request with fields that are let through fits the records. An account takes the
fields of a registration, the assignments of a special one and those of an update, and a review
takes the fields of an order. Of the four operations, those that add an account end because a record
does not take a value if and only if a row that is looked up first cannot be read, an update if and
only if its row cannot be read, and a review never. -/
theorem accepted_body_fits (fields : List (String × Json)) (settings : Settings) (m : Model σ)
    (d : Desk σ) :
    (∀ r, Registration.read fields = .good r →
      (∀ id now hash, ∃ a, Account.read id now
        (Account.newFields r.username r.email hash r.fullName false) = .good a) ∧
      (Breaks (register settings r.username r.email r.password r.fullName) d ↔
        d.store.Blocks r.username r.email)) ∧
    (∀ r, SpecialRegistration.read fields = .good r →
      (∀ id now hash, ∃ a, Account.read id now
          (Account.newFields r.username r.email hash r.fullName true) = .good a ∧
        a.assignAll (Account.specialFields r.usageLimit) = (a.makeSpecial r.usageLimit, [])) ∧
      (Breaks (createSpecial settings r.username r.email r.password r.fullName r.usageLimit) d ↔
        d.store.Blocks r.username r.email)) ∧
    (∀ u, readUpdate fields = .good u →
      (∀ a : Account, a.assignAll (a.updateFields u) = (a.update u, [])) ∧
      ∀ id, Breaks (updateAccount id u) d ↔ ∃ a ∈ d.store.row? id, ¬a.Readable) ∧
    (∀ o, ReviewOrder.read fields = .good o →
      (∀ fresh now reviewer, ∃ r,
        Review.read fresh now (Review.newFields reviewer o.title o.description) = .good r) ∧
      ∀ caller, ¬Breaks (createReview m caller o.title o.description o.files) d) := by
  refine ⟨fun r hr => ⟨fun id now hash => ?_, ?_⟩, fun r hr => ⟨fun id now hash => ?_, ?_⟩,
    fun u hu => ⟨fun a => ?_, fun id => ?_⟩, fun o ho => ⟨fun fresh now reviewer => ?_,
      fun caller => ?_⟩⟩
  · exact Account.exists_read_newFields (Registration.make_of_read hr id now) _ _ _
  · rw [register, breaks_addAccount_iff settings fun id now =>
      ⟨_, Registration.make_of_read hr id now⟩]
  · obtain ⟨a, ha⟩ := Account.exists_read_newFields (SpecialRegistration.make_of_read hr id now)
      hash r.fullName true
    exact ⟨a, ha, Account.assignAll_specialFields (Service.limit_of_specialRegistration hr) a⟩
  · rw [createSpecial, createAccount, breaks_addAccount_iff settings fun id now =>
      ⟨_, SpecialRegistration.make_of_read hr id now⟩]
  · exact Account.assignAll_updateFields (Service.limit_of_readUpdate hu) a
  · exact breaks_updateAccount_iff id u d
  · rw [Review.read_newFields, ReviewOrder.make_of_read ho]
    exact ⟨_, rfl⟩
  · exact not_breaks_createReview m caller
      (fun id now => ⟨_, ReviewOrder.make_of_read ho id now caller.id⟩) o.files d

section Example

/-- The shortest registration that is let through. -/
def shortBody : List (String × Json) :=
  [("username", .str "eve"), ("email", .str "e@v.e"), ("password", .str "secret"),
    ("full_name", .null)]

theorem read_shortBody : Registration.read shortBody = .good ⟨"eve", "e@v.e", "secret", none⟩ := rfl

/-- An update whose limit is written as a text and whose flag is written as a word. -/
def laxBody : List (String × Json) :=
  [("usageLimit", .str " +5.0 "), ("is_special_user", .str "YES")]

theorem read_laxBody :
    readUpdate laxBody = .good { isSpecial := some true, usageLimit := some 5 } := rfl

/-- At a desk where all rows can be read, what is made from these bodies is not refused for its
values. -/
theorem accepted_body_fits_short :
    ¬Breaks (register minuteSettings "eve" "e@v.e" "secret" none) passwordDesk ∧
      ∀ id, ¬Breaks (updateAccount id { isSpecial := some true, usageLimit := some 5 })
        passwordDesk := by
  have hreadable : adaWithPassword.Readable := by decide
  have hfits (fields : List (String × Json)) :=
    accepted_body_fits fields minuteSettings (Model.Script.model "m") passwordDesk
  constructor
  · rw [((hfits shortBody).1 _ read_shortBody).2]
    rintro (⟨a, ⟨⟩, -⟩ | ⟨-, a, ha, -⟩)
    have hnobody : passwordDesk.store.addressed? "e@v.e" = none := by decide +kernel
    rw [hnobody] at ha
    cases ha
  · intro id
    rw [((hfits laxBody).2.2.1 _ read_laxBody).2]
    rintro ⟨a, ha, hunreadable⟩
    obtain rfl := List.mem_singleton.mp (Store.row?_mem ha)
    exact hunreadable hreadable

/-- A registration under the name of an account whose row cannot be read is let through, and then
refused for the values of that row. -/
theorem accepted_body_blocked : ∃ fields r, Registration.read fields = .good r ∧
    Breaks (register minuteSettings r.username r.email r.password r.fullName) fullDesk := by
  have hread : Registration.read [("username", .str "ada"), ("email", .str "e@v.e"),
      ("password", .str "secret")] = .good ⟨"ada", "e@v.e", "secret", none⟩ := rfl
  refine ⟨_, _, hread, ?_⟩
  rw [register, breaks_addAccount_iff _ fun id now => ⟨_, Registration.make_of_read hread id now⟩]
  exact .inl ⟨_, rfl, by decide⟩

end Example

end Desk

end ReviewDesk
