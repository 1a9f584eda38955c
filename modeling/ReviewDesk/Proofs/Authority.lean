import ReviewDesk.Model.Script
import ReviewDesk.Proofs.Dispatch
import ReviewDesk.Proofs.Rows
import ReviewDesk.Proofs.Task
import ReviewDesk.Service.Basic

/-!
# Nothing happens without authority

A request speaks for an account if it brings a token that is good now and names an account that is
stored and active, and says nothing else about the caller. A guarded route looks for that account
before it looks at what is asked. So a request that speaks for nobody, or for somebody who is no
administrator where one is needed, is answered with an error and leaves the whole desk as it was:
the store, the review model, and GitHub, which keeps all requests that it is sent.
-/
namespace ReviewDesk.Service

open Desk (outcome outcome_fail outcome_clock outcome_look outcome_bind_ok outcome_bind_error)

variable {σ : Type}

/-! ## Answers that are errors -/

def Answer.IsError (a : Answer) : Prop := 400 ≤ a.status ∧ a.status < 600

theorem isError_of_verdict {failure : Failure} {kind : String} {status : Nat}
    (h : failure.verdict? = some (kind, status)) (message : String) :
    (Answer.error status kind message).IsError := by
  have hstatus : 400 ≤ status ∧ status < 600 := by
    unfold Failure.verdict? at h
    split at h <;> simp_all <;> omega
  exact hstatus

theorem isError_ofFailure {failure : Failure} {a : Answer}
    (h : Answer.ofFailure? failure = some a) : a.IsError := by
  unfold Answer.ofFailure? at h
  split at h
  · next hverdict =>
    cases h
    exact isError_of_verdict hverdict _
  · next fault _ =>
    obtain ⟨kind, -, rfl⟩ := Option.map_eq_some_iff.mp h
    have hstatus : 400 ≤ Answer.gitHubStatus fault ∧ Answer.gitHubStatus fault < 600 := by
      unfold Answer.gitHubStatus
      split <;> omega
    exact hstatus
  · cases h

theorem isError_bodyFault (fault : Input.BodyFault) : fault.answer.IsError := by
  cases fault <;> simp [Input.BodyFault.answer, Answer.IsError, Answer.ofProblems, Answer.error,
    Answer.detail, Answer.ofJson]

theorem markOrigin_status (settings : Settings) (r : Request) (a : Answer) :
    (markOrigin settings r a).status = a.status := by
  unfold markOrigin
  split
  · rfl
  · split_ifs <;> rfl

/-! ## Who is asking -/

/-- A request brings all that it takes to be known as a request of an account. -/
structure SpeaksFor (settings : Settings) (r : Request) (d : Desk σ) (a : Account) : Prop where
  token : ∃ text claims, bearer? r = some text ∧
    Token.verify settings.secret d.now text = .ok claims ∧ claims.userId = a.id
  caller : ∀ text, r.header? "x-user-id" = some text → Uuid.parseLoose? text = some a.id
  stored : d.store.getAccount a.id = .ok (some a)
  active : a.isActive = true

theorem checkCaller_eq_ok_iff {caller : Option String} {id : Uuid} :
    Desk.checkCaller caller id = .ok () ↔
      ∀ text, caller = some text → Uuid.parseLoose? text = some id := by
  unfold Desk.checkCaller
  cases caller with
  | none => simp
  | some text =>
    cases hid : Uuid.parseLoose? text with
    | none => simp [hid]
    | some claimed => by_cases h : claimed = id <;> simp [hid, h]

section Caller

variable {settings : Settings} {r : Request} {d : Desk σ} {text : String} {claims : Token.Claims}

/-- With a good token the rest is between the header, the store and the account. -/
theorem speaksFor_iff (htoken : bearer? r = some text)
    (hverify : Token.verify settings.secret d.now text = .ok claims) {a : Account} :
    SpeaksFor settings r d a ↔
      Desk.checkCaller (r.header? "x-user-id") claims.userId = .ok () ∧
        d.store.getAccount claims.userId = .ok (some a) ∧ a.isActive = true := by
  constructor
  · rintro ⟨⟨_, _, htoken', hverify', hid⟩, hcaller, hstored, hactive⟩
    rw [htoken, Option.some.injEq] at htoken'
    subst htoken'
    rw [hverify, Except.ok.injEq] at hverify'
    subst hverify'
    rw [hid]
    exact ⟨checkCaller_eq_ok_iff.mpr hcaller, hstored, hactive⟩
  · rintro ⟨hcaller, hstored, hactive⟩
    have hid : a.id = claims.userId := Store.row?_id (Store.getAccount_eq_ok_iff.mp hstored).1
    rw [← hid] at hcaller hstored
    exact ⟨⟨text, claims, htoken, hverify, hid.symm⟩, checkCaller_eq_ok_iff.mp hcaller, hstored,
      hactive⟩

theorem outcome_authenticate_error {fault : Token.Fault} (caller : Option String)
    (hverify : Token.verify settings.secret d.now text = .error fault) :
    outcome (Desk.authenticate settings text caller) d = (.error (.badToken fault), d) := by
  rw [Desk.authenticate, outcome_bind_ok (outcome_clock d), hverify]
  exact outcome_fail d _

/-- A good token gives the account that it names, if the caller claims to be no other and the
account is stored and active. -/
theorem outcome_authenticate (caller : Option String)
    (hverify : Token.verify settings.secret d.now text = .ok claims) :
    ∃ result, outcome (Desk.authenticate settings text caller) d = (result, d) ∧
      ∀ a, result = .ok a ↔ Desk.checkCaller caller claims.userId = .ok () ∧
        d.store.getAccount claims.userId = .ok (some a) ∧ a.isActive = true := by
  rw [Desk.authenticate, outcome_bind_ok (outcome_clock d), hverify]
  dsimp only
  cases hcaller : Desk.checkCaller caller claims.userId with
  | error failure => exact ⟨_, outcome_fail d _, by simp⟩
  | ok _ =>
    have hlook := outcome_look d (Store.getAccount claims.userId)
    cases hstored : d.store.getAccount claims.userId with
    | error fault =>
      rw [hstored] at hlook
      exact ⟨_, outcome_bind_error hlook, by simp⟩
    | ok found =>
      rw [hstored] at hlook
      dsimp only
      rw [outcome_bind_ok hlook]
      cases found with
      | none => exact ⟨_, outcome_fail d _, by simp⟩
      | some a =>
        by_cases hactive : a.isActive
        · refine ⟨.ok a, by simp [hactive], fun b => ?_⟩
          simp only [Except.ok.injEq, Option.some.injEq, true_and]
          exact ⟨fun h => ⟨h, h ▸ hactive⟩, fun h => h.1⟩
        · refine ⟨.error .disabled, by simp [hactive], fun b => ⟨nofun, ?_⟩⟩
          rintro ⟨-, hb, hactive'⟩
          cases hb
          exact absurd hactive' hactive

end Caller

variable (settings : Settings) (r : Request) (d : Desk σ)

/-- Finding out who is asking changes nothing, and it succeeds for the account that the request
speaks for and for no other. -/
theorem outcome_callerOf : ∃ result, outcome (callerOf settings r) d = (result, d) ∧
    ∀ a, result = .ok a ↔ SpeaksFor settings r d a := by
  cases htoken : bearer? r with
  | none =>
    refine ⟨.error .missingToken, by rw [callerOf, htoken]; exact outcome_fail d _, fun a => ?_⟩
    refine ⟨nofun, fun h => ?_⟩
    obtain ⟨_, _, hbearer, -⟩ := h.token
    simp [htoken] at hbearer
  | some text =>
    have hcaller : (callerOf settings r : Task σ Account) =
        Desk.authenticate settings text (r.header? "x-user-id") := by rw [callerOf, htoken]
    rw [hcaller]
    cases hverify : Token.verify settings.secret d.now text with
    | error fault =>
      refine ⟨_, outcome_authenticate_error _ hverify, fun a => ⟨nofun, fun h => ?_⟩⟩
      obtain ⟨_, _, hbearer, hgood, -⟩ := h.token
      rw [htoken, Option.some.injEq] at hbearer
      simp [← hbearer, hverify] at hgood
    | ok claims =>
      obtain ⟨result, hresult, hiff⟩ := outcome_authenticate (r.header? "x-user-id") hverify
      exact ⟨result, hresult, fun a => (hiff a).trans (speaksFor_iff htoken hverify).symm⟩

/-! ## Requests without authority -/

variable {settings r d}

/-- A guard that is not passed ends a request before anything else happens. -/
theorem outcome_run_refused {handler : Handler σ} (input : Input)
    (hguarded : handler.access ≠ .visitor)
    (hnobody : ∀ a, SpeaksFor settings r d a → handler.access = .admin ∧ a.isAdmin = false) :
    ∃ failure, outcome (handler.run settings r input) d = (.error failure, d) := by
  obtain ⟨result, hresult, hiff⟩ := outcome_callerOf settings r d
  cases handler with
  | visitor act => exact absurd rfl hguarded
  | member act =>
    cases result with
    | error failure => exact ⟨failure, outcome_bind_error hresult⟩
    | ok a => cases (hnobody a ((hiff a).mp rfl)).1
  | admin act =>
    cases result with
    | error failure => exact ⟨failure, outcome_bind_error hresult⟩
    | ok a =>
      have hguard : outcome (Desk.requireAdmin a) d = (.error .adminOnly, d) := by
        simp [Desk.requireAdmin, (hnobody a ((hiff a).mp rfl)).2]
      refine ⟨.adminOnly, ?_⟩
      rw [Handler.run, outcome_bind_ok hresult]
      exact outcome_bind_error hguard

/-- A body that cannot be read is told of before the guard, and changes as little. -/
theorem act_refused {route : Route σ} (slots : List (String × String))
    (h : ∀ input, ∃ failure, outcome (route.handler.run settings r input) d = (.error failure, d)) :
    ∃ answer, (act settings r route slots).run d = (answer, d) ∧ ∀ a ∈ answer, a.IsError := by
  unfold act
  cases hbody : if route.takesBody then Input.readBody r else .ok none with
  | error fault => exact ⟨some fault.answer, rfl, by simpa using isError_bodyFault fault⟩
  | ok body =>
    obtain ⟨failure, hfailure⟩ := h
      { slots := Input.ofPairs slots, query := Input.ofPairs r.query, body }
    refine ⟨Answer.ofFailure? failure, ?_, fun a ha => isError_ofFailure ha⟩
    rw [outcome] at hfailure
    simp only [StateT.run_bind, hfailure]
    rfl

/-- A request that fits a route is met by a route for the same callers. -/
theorem reply_of_slots {m : Model σ} {route : Route σ}
    (hroute : route ∈ healthRoute :: deskRoutes m settings) (hmethod : r.method = route.method)
    (hpath : ((route.below settings.apiPath).slots? r.path).isSome) :
    ∃ found slots, reply m settings r = act settings r found slots ∧
      found.handler.access = route.handler.access := by
  have hbelow : route.below settings.apiPath ∈ routes m settings := List.mem_map_of_mem hroute
  obtain ⟨_, hfound, slots, hsame, hslots, hlocate⟩ := locate_of_slots hbelow hpath
  obtain ⟨other, hother, rfl⟩ := List.mem_map.mp hfound
  have haccess : other.handler.access = route.handler.access :=
    access_eq_of_slots hother hroute hsame (Option.isSome_of_eq_some hslots) hpath
  refine ⟨other.below settings.apiPath, slots, ?_, haccess⟩
  have hreached : locate (routes m settings) r.method r.path =
      .route (other.below settings.apiPath) slots := hmethod ▸ hlocate
  rw [reply, hreached]

theorem serve_of_reply (m : Model σ) (hmethod : r.method ≠ "OPTIONS") {answer : Option Answer}
    (hreply : (reply m settings r).run d = (answer, d)) (herror : ∀ a ∈ answer, a.IsError) :
    ∃ a, (serve m settings r).run d = (a, d) ∧ a.IsError := by
  unfold serve
  split
  · next hoptions _ _ => exact absurd hoptions hmethod
  · simp only [StateT.run_bind, hreply]
    cases answer with
    | none => exact ⟨.crash, rfl, by decide, by decide⟩
    | some a =>
      refine ⟨markOrigin settings r a, rfl, ?_⟩
      rw [Answer.IsError, markOrigin_status]
      exact herror a rfl

/-- The paths below `/auth` and `/github` that anybody may ask for. -/
def openPaths : List String := ["/auth/register", "/auth/login", "/github/oauth/callback"]

/-- The route is below `/admin`. -/
def Route.isAdministrative (route : Route σ) : Bool := route.path.startsWith "/admin/"

theorem entries_guarded : ∀ e ∈ entries.tail, e.path ∉ openPaths → e.access ≠ .visitor := by
  decide +kernel

theorem entries_administrative : ∀ e ∈ entries, e.path.startsWith "/admin/" = true →
    e.access = .admin := by
  decide +kernel

/-- A request for a guarded route that speaks for nobody, or for nobody who may administrate where
that is asked, is answered with an error, and nothing else happens. -/
theorem serve_isError_of_not_speaksFor (m : Model σ) (settings : Settings) (r : Request)
    (d : Desk σ) {route : Route σ} (hroute : route ∈ deskRoutes m settings)
    (hclosed : route.path ∉ openPaths) (hmethod : r.method = route.method)
    (hpath : ((route.below settings.apiPath).slots? r.path).isSome)
    (hnobody : (∀ a, ¬ SpeaksFor settings r d a) ∨
      route.isAdministrative = true ∧ ∀ a, SpeaksFor settings r d a → a.role ≠ .admin) :
    ∃ answer, (serve m settings r).run d = (answer, d) ∧ answer.IsError := by
  have hmem : route ∈ healthRoute :: deskRoutes m settings := List.mem_cons_of_mem _ hroute
  have hentry : route.entry ∈ entries.tail := by
    rw [← map_entry m settings]
    exact List.mem_map_of_mem hroute
  have hguarded : route.handler.access ≠ .visitor := entries_guarded _ hentry hclosed
  have hrefused : ∀ a, SpeaksFor settings r d a →
      route.handler.access = .admin ∧ a.isAdmin = false := by
    intro a ha
    rcases hnobody with hnobody | ⟨hadmin, hrole⟩
    · exact absurd ha (hnobody a)
    · refine ⟨entries_administrative _ (entry_mem hmem) hadmin, ?_⟩
      simp [Account.isAdmin, hrole a ha]
  -- Another route may be tried first, but it is guarded in the same way.
  obtain ⟨found, slots, hreply, haccess⟩ := reply_of_slots hmem hmethod hpath
  rw [← haccess] at hguarded hrefused
  obtain ⟨answer, hact, herror⟩ := act_refused slots fun input =>
    outcome_run_refused input hguarded hrefused
  have hoptions : r.method ≠ "OPTIONS" := by
    rw [hmethod]
    exact entries_not_options _ (entry_mem hmem)
  exact serve_of_reply m hoptions (hreply ▸ hact) herror

section Example

def ordinary : Account where
  id := Uuid.ofNat 0x11111111111141118111111111111111
  username := "ada"
  email := "ada@example.com"
  createdAt := ⟨0, some 0⟩
  updatedAt := ⟨0, some 0⟩

def ordinaryDesk : Desk Model.Script where
  store := { accounts := [ordinary] }
  now := ⟨1, some 0⟩
  ids := Uuid.ofNat
  model := { name := "script", replies := [] }

def ordinarySettings : Settings where
  secret := "kkkkkkkkkkkkkkkkkkkkkkkkkkkkkkkk"

/-- A token for that account, good for nine seconds. -/
def ordinaryToken : String :=
  "eyJhbGciOiJIUzI1NiJ9." ++
    "eyJ1c2VySWQiOiIxMTExMTExMTExMTE0MTExODExMTExMTExMTExMTExMSIsInN1YiI6ImFkYSIsImV4cCI6OX0." ++
    "vBOZBbhaDjztNoxiEB3DYUB5k-_BV9UPuqtG8UsTlmk"

def statsRequest : Request where
  path := "/api/admin/stats"
  headers := [("authorization", "Bearer " ++ ordinaryToken)]

theorem bearer_statsRequest : bearer? statsRequest = some ordinaryToken := by decide +kernel

theorem verify_ordinaryToken : ∃ claims,
    Token.verify ordinarySettings.secret ordinaryDesk.now ordinaryToken = .ok claims ∧
      claims.userId = ordinary.id := by
  -- Read off a check that can be evaluated, so that the token is taken apart only once.
  have hread {e : Except Token.Fault Token.Claims} {id : Uuid}
      (h : e.toOption.any (·.userId == id) = true) :
      ∃ claims, e = .ok claims ∧ claims.userId = id := by
    cases e with
    | error fault => cases h
    | ok claims => exact ⟨claims, rfl, eq_of_beq h⟩
  exact hread (by decide +kernel)

theorem speaksFor_ordinary : SpeaksFor ordinarySettings statsRequest ordinaryDesk ordinary where
  token :=
    have ⟨claims, hverify, hid⟩ := verify_ordinaryToken
    ⟨ordinaryToken, claims, bearer_statsRequest, hverify, hid⟩
  caller := by
    have hheader : statsRequest.header? "x-user-id" = none := by decide +kernel
    simp [hheader]
  stored := Store.getAccount_eq_ok_iff.mpr (by decide +kernel)
  active := rfl

/-- An ordinary account with a good token does not get to see the statistics. -/
theorem serve_isError_ordinary : SpeaksFor ordinarySettings statsRequest ordinaryDesk ordinary ∧
    ∃ answer, (serve (Model.Script.model "script") ordinarySettings statsRequest).run ordinaryDesk =
      (answer, ordinaryDesk) ∧ answer.IsError := by
  refine ⟨speaksFor_ordinary, ?_⟩
  refine serve_isError_of_not_speaksFor _ _ _ _
    (List.getElem_mem (n := 10) (by decide +kernel)) (by decide +kernel) rfl
    (by decide +kernel) (.inr ⟨by decide +kernel, fun a ha => ?_⟩)
  have hrow := Store.row?_mem (Store.getAccount_eq_ok_iff.mp ha.stored).1
  rw [List.mem_singleton.mp hrow]
  decide

end Example

end ReviewDesk.Service
