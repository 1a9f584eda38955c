import ReviewDesk.Proofs.Authority
import ReviewDesk.Proofs.Inquiries

/-!
# What callers are told of faults between the desk and GitHub

A request for a route that asks GitHub may fail with a fault of an inquiry, and then the inquiry was
made with what was left of the replies. A fault that has a name is answered under it, with a status
that says whose fault it is. One without a name ends in the answer for all that nobody thought of.
-/
namespace ReviewDesk

/-- A fault of an inquiry that is made with the last of these replies. -/
def GitHub.Arises (replies : List Http.Reply) (fault : GitHub.Fault) : Prop :=
  ∃ (c : GitHub.Client) (q : GitHub.Inquiry) (p : Http.Peer),
    p.replies <:+ replies ∧ ((q.run c).run p).1 = .error fault

namespace Desk

variable {σ α β : Type}

/-- If the task fails with a fault between the desk and GitHub, an inquiry does. -/
def Traced (t : Task σ α) : Prop :=
  ∀ d, (outcome t d).2.github.replies <:+ d.github.replies ∧
    ∀ fault, (outcome t d).1 = .error (.github fault) → GitHub.Arises d.github.replies fault

namespace Traced

/-- A task that has nothing to do with GitHub. -/
theorem of_apart {t : Task σ α} (h : ∀ d, (outcome t d).2.github = d.github ∧
    ∀ fault, (outcome t d).1 ≠ .error (.github fault)) : Traced t := fun d =>
  ⟨(h d).1 ▸ List.suffix_rfl, fun fault hfault => absurd hfault ((h d).2 fault)⟩

theorem pure (a : α) : Traced (pure a : Task σ α) := of_apart fun _ => ⟨rfl, nofun⟩

theorem fail {failure : Failure} (h : ∀ fault, failure ≠ .github fault) :
    Traced (fail failure : Task σ α) :=
  of_apart fun _ => ⟨rfl, fun fault hfault => h fault (Except.error.inj hfault)⟩

/-- After a failure it does not matter what would have been next. -/
theorem fail_bind {failure : Failure} {next : α → Task σ β}
    (h : ∀ fault, failure ≠ .github fault) : Traced (Desk.fail failure >>= next) :=
  of_apart fun _ => ⟨rfl, fun fault hfault => h fault (Except.error.inj hfault)⟩

theorem get : Traced (get : Task σ (Desk σ)) := of_apart fun _ => ⟨rfl, nofun⟩

theorem clock : Traced (clock : Task σ Moment) := of_apart fun _ => ⟨rfl, nofun⟩

theorem freshId : Traced (freshId : Task σ Uuid) := of_apart fun _ => ⟨rfl, nofun⟩

theorem look (query : Store → Except Store.Fault α) : Traced (look query : Task σ α) := by
  refine of_apart fun d => ?_
  rw [outcome_look]
  cases query d.store <;> exact ⟨rfl, nofun⟩

theorem change (operation : Store → Except Store.Fault (α × Store)) :
    Traced (change operation : Task σ α) := by
  refine of_apart fun d => ?_
  cases h : operation d.store with
  | error fault =>
    rw [outcome_change_error d h]
    exact ⟨rfl, nofun⟩
  | ok result =>
    rw [outcome_change_ok d h]
    exact ⟨rfl, nofun⟩

theorem askGitHub (c : GitHub.Client) (q : GitHub.Inquiry) :
    Traced (askGitHub (q.run c) : Task σ q.Result) := by
  intro d
  rw [outcome_askGitHub]
  refine ⟨q.replies_run c d.github, fun fault hfault => ?_⟩
  refine ⟨c, q, d.github, List.suffix_rfl, ?_⟩
  cases hresult : ((q.run c).run d.github).1 with
  | ok a => simp [hresult, Except.mapError] at hfault
  | error fault' => simpa [hresult, Except.mapError] using hfault

theorem bind {t : Task σ α} {next : α → Task σ β} (ht : Traced t)
    (hnext : ∀ a, Traced (next a)) : Traced (t >>= next) := by
  intro d
  obtain ⟨hleft, hfault⟩ := ht d
  rw [outcome_bind]
  rcases houtcome : outcome t d with ⟨failure | a, d'⟩
  · rw [houtcome] at hleft hfault
    exact ⟨hleft, fun fault h => hfault fault (congrArg _ (Except.error.inj h))⟩
  · rw [houtcome] at hleft
    obtain ⟨hleft', hfault'⟩ := hnext a d'
    refine ⟨hleft'.trans hleft, fun fault h => ?_⟩
    obtain ⟨c, q, p, hp, hrun⟩ := hfault' fault h
    exact ⟨c, q, p, hp.trans hleft, hrun⟩

theorem saveAccount (a : Account) : Traced (saveAccount a : Task σ Account) :=
  clock.bind fun _ => change _

theorem issueToken (settings : Settings) (a : Account) :
    Traced (issueToken settings a : Task σ String) := by
  refine clock.bind fun now => ?_
  split
  · exact pure _
  · exact fail nofun

theorem exchangeCode (settings : Settings) (code : String) :
    Traced (exchangeCode settings code : Task σ (String × GitHub.Profile)) := by
  unfold Desk.exchangeCode
  split
  · exact fail nofun
  · next id secret _ =>
    split_ifs
    · exact fail nofun
    · refine (askGitHub {} (.exchangeCode id secret code)).bind fun token => ?_
      exact (askGitHub (.ofToken token) .profile).bind fun profile => pure _

theorem accountOfProfile (p : GitHub.Profile) (token : String) :
    Traced (accountOfProfile p token : Task σ Account) := by
  refine (look _).bind fun found => ?_
  dsimp only
  split_ifs
  · exact fail_bind nofun
  · refine get.bind fun d => ?_
    split
    · exact fail nofun
    · refine freshId.bind fun id => clock.bind fun now => ?_
      split
      · exact fail nofun
      · exact pure _

theorem gitHubLogin (settings : Settings) (code : String) :
    Traced (gitHubLogin settings code : Task σ (Account × String)) := by
  refine (exchangeCode settings code).bind fun found => (look _).bind fun known => ?_
  have hrest (a : Account) : Traced (do
      let account ← Desk.saveAccount (a.recordLogin (← Desk.clock))
      return (account, ← Desk.issueToken settings account) : Task σ (Account × String)) :=
    clock.bind fun _ => (saveAccount _).bind fun a => (issueToken settings a).bind fun _ => pure _
  cases known with
  | none => exact (accountOfProfile _ _).bind hrest
  | some a =>
    dsimp only
    split_ifs
    · exact (pure _).bind hrest
    · exact fail_bind nofun

theorem linkGitHub (settings : Settings) (caller : Account) (code : String) :
    Traced (linkGitHub settings caller code : Task σ Account) := by
  refine (exchangeCode settings code).bind fun found => (look _).bind fun known => ?_
  dsimp only
  split_ifs
  · exact fail_bind nofun
  · exact saveAccount _

theorem clientFor (caller : Account) : Traced (clientFor caller : Task σ GitHub.Client) := by
  unfold Desk.clientFor
  split_ifs
  · exact pure _
  · exact fail nofun

theorem repositories (caller : Account) :
    Traced (repositories caller : Task σ (List GitHub.Repository)) :=
  (clientFor caller).bind fun client => askGitHub client .repositories

theorem repository (caller : Account) (owner repo : String) :
    Traced (repository caller owner repo : Task σ GitHub.Repository) :=
  (clientFor caller).bind fun client => askGitHub client (.repository owner repo)

theorem fetchAll (client : GitHub.Client) (owner repo : String) (ref : Option String)
    (paths : List String) (files : Files) :
    Traced (fetchAll client owner repo ref paths files : Task σ Files) := by
  induction paths generalizing files with
  | nil => exact pure files
  | cons path rest ih =>
    refine (askGitHub client (.fileText owner repo path ref)).bind fun text => ?_
    cases text with
    | none => exact ih files
    | some text => exact ih _

theorem sourceFiles (budget : Budget) (caller : Account) (owner repo : String) :
    Traced (sourceFiles budget caller owner repo : Task σ Files) :=
  (clientFor caller).bind fun client =>
    (askGitHub client (.repository owner repo)).bind fun repository =>
      (askGitHub client (.tree owner repo repository.defaultBranch)).bind fun _ =>
        fetchAll client owner repo _ _ _

theorem namedFiles (caller : Account) (owner repo : String) (paths : List String) :
    Traced (namedFiles caller owner repo paths : Task σ Files) :=
  (clientFor caller).bind fun client => fetchAll client owner repo none paths []

theorem authenticate (settings : Settings) (token : String) (caller : Option String) :
    Traced (authenticate settings token caller : Task σ Account) := by
  refine clock.bind fun now => ?_
  split
  · exact fail nofun
  · next claims _ =>
    cases hcaller : checkCaller caller claims.userId with
    | error failure =>
      refine fail fun fault hfault => ?_
      unfold checkCaller at hcaller
      grind
    | ok _ =>
      refine (look _).bind fun found => ?_
      cases found with
      | none => exact fail nofun
      | some a =>
        dsimp only
        split_ifs
        · exact pure a
        · exact fail nofun

end Traced

end Desk

namespace Service

open Desk (Traced)

variable {σ : Type} {settings : Settings}

theorem traced_callerOf (r : Request) : Traced (callerOf settings r : Task σ Account) := by
  unfold callerOf
  split
  · exact .fail nofun
  · exact .authenticate settings _ _

theorem traced_visitor {act : Input → Checked (Task σ Answer)} (r : Request) (input : Input)
    (h : ∀ task, act input = .good task → Traced task) :
    Traced ((Handler.visitor act).run settings r input) := by
  rw [Handler.run]
  split
  · next task htask => exact h task htask
  · exact .pure _

theorem traced_member {act : Input → Checked (Account → Task σ Answer)} (r : Request)
    (input : Input) (h : ∀ task, act input = .good task → ∀ caller, Traced (task caller)) :
    Traced ((Handler.member act).run settings r input) := by
  refine (traced_callerOf r).bind fun caller => ?_
  split
  · next task htask => exact h task htask caller
  · exact .pure _

theorem traced_repositoryRoute {method path : String}
    {act : Account → String → String → Task σ Answer} (r : Request) (input : Input)
    (h : ∀ caller owner repo, Traced (act caller owner repo)) :
    Traced ((repositoryRoute method path act).handler.run settings r input) := by
  refine traced_member r input fun task htask caller => ?_
  simp only [Checked.seq_eq_good, Checked.map_eq_good] at htask
  obtain ⟨_, repo, ⟨owner, -, rfl⟩, -, rfl⟩ := htask
  exact h caller owner repo

/-- Where a route that has to do with GitHub fails with a fault of it, an inquiry does. -/
theorem traced_gitHubRoute {route : Route σ} (hroute : route ∈ gitHubRoutes settings) (r : Request)
    (input : Input) : Traced (route.handler.run settings r input) := by
  simp only [gitHubRoutes, List.mem_cons, List.not_mem_nil, or_false] at hroute
  rcases hroute with rfl | rfl | rfl | rfl | rfl | rfl | rfl
  · refine traced_visitor r input fun task htask => ?_
    obtain ⟨code, -, rfl⟩ := (Checked.map_eq_good _).mp htask
    exact (Traced.gitHubLogin settings code).bind fun _ => .pure _
  · refine traced_member r input fun task htask caller => ?_
    obtain ⟨code, -, rfl⟩ := (Checked.map_eq_good _).mp htask
    exact (Traced.linkGitHub settings caller code).bind fun _ => .pure _
  · refine traced_member r input fun task htask caller => ?_
    cases htask
    exact (Traced.repositories caller).bind fun _ => .pure _
  · exact traced_repositoryRoute r input fun caller owner repo =>
      (Traced.repository caller owner repo).bind fun _ => .pure _
  · exact traced_repositoryRoute r input fun caller owner repo =>
      (Traced.sourceFiles {} caller owner repo).bind fun _ => .pure _
  · refine traced_member r input fun task htask caller => ?_
    simp only [Checked.seq_eq_good, Checked.map_eq_good] at htask
    obtain ⟨_, order, ⟨_, repo, ⟨owner, -, rfl⟩, -, rfl⟩, -, rfl⟩ := htask
    exact (Traced.namedFiles caller owner repo order.files).bind fun _ => .pure _
  · refine traced_member r input fun task htask caller => ?_
    cases htask
    exact (Traced.saveAccount caller.disconnectGitHub).bind fun _ => .pure _

/-! ## The answer to a request -/

/-- The kinds of faults that callers are told of. -/
def namedKinds : List String :=
  ["GitHubApiError", "GitHubRateLimitError", "GitHubOAuthError", "GitHubInputError",
    "ConnectError"]

theorem mem_namedKinds {fault : GitHub.Fault} {kind : String} (h : fault.kind? = some kind) :
    kind ∈ namedKinds := by
  cases fault with
  | status code endpoint =>
    simp only [GitHub.Fault.kind?, Option.some.injEq] at h
    subst h
    split_ifs <;> simp [namedKinds]
  | _ => simp_all [GitHub.Fault.kind?, namedKinds]

theorem named_iff {fault : GitHub.Fault} :
    (∃ kind ∈ namedKinds, fault.kind? = some kind) ↔ fault.kind? ≠ none := by
  rw [Option.ne_none_iff_exists']
  exact ⟨fun ⟨kind, _, h⟩ => ⟨kind, h⟩, fun ⟨kind, h⟩ => ⟨kind, mem_namedKinds h, h⟩⟩

/-- The answer gives the fault a name, and a status that says whose fault it is. -/
def Answer.NamesFault (a : Answer) : Prop :=
  a.status ∈ [400, 404, 502] ∧ ∃ kind ∈ namedKinds, ∃ message,
    a.content = .json (.obj [("error", .str kind), ("message", .str message)])

theorem gitHubStatus_mem (fault : GitHub.Fault) :
    Answer.gitHubStatus fault ∈ [400, 404, 502] := by
  unfold Answer.gitHubStatus
  split <;> simp

theorem markOrigin_content (settings : Settings) (r : Request) (a : Answer) :
    (markOrigin settings r a).content = a.content := by
  unfold markOrigin
  split
  · rfl
  · split_ifs <;> rfl

/-- A request is led to a route that has to do with GitHub, and there fails with a fault. -/
def FailsWith (m : Model σ) (settings : Settings) (r : Request) (d : Desk σ)
    (fault : GitHub.Fault) : Prop :=
  ∃ route ∈ gitHubRoutes settings, ∃ slots body,
    locate (routes m settings) r.method r.path = .route (route.below settings.apiPath) slots ∧
    (if route.takesBody then Input.readBody r else .ok none) = .ok body ∧
    (Desk.outcome (route.handler.run settings r
      { slots := Input.ofPairs slots, query := Input.ofPairs r.query, body }) d).1 =
        .error (.github fault)

theorem method_of_locate {rs : List (Route σ)} {method path : String} {route : Route σ}
    {slots : List (String × String)} (h : locate rs method path = .route route slots) :
    route.method = method := by
  dsimp only [locate] at h
  split at h
  · next found _ hfound =>
    cases h
    have hmethod := List.find?_some hfound
    exact eq_of_beq hmethod
  · cases h
  · split_ifs at h

variable {m : Model σ} {r : Request} {d : Desk σ} {fault : GitHub.Fault}

theorem act_of_failure {route : Route σ} {slots : List (String × String)} {body : Option Json}
    {failure : Failure} {d' : Desk σ}
    (hbody : (if route.takesBody then Input.readBody r else .ok none) = .ok body)
    (hfailure : Desk.outcome (route.handler.run settings r
      { slots := Input.ofPairs slots, query := Input.ofPairs r.query, body }) d =
        (.error failure, d')) :
    (act settings r route slots).run d = (Answer.ofFailure? failure, d') := by
  rw [Desk.outcome] at hfailure
  rw [act, hbody]
  simp only [StateT.run_bind, hfailure]
  rfl

theorem not_options_of_locate {route : Route σ} {slots : List (String × String)}
    (hroute : route ∈ gitHubRoutes settings)
    (hlocate : locate (routes m settings) r.method r.path =
      .route (route.below settings.apiPath) slots) : r.method ≠ "OPTIONS" := by
  have hmem : route ∈ healthRoute :: deskRoutes m settings :=
    List.mem_cons_of_mem _ (List.mem_append_right _ hroute)
  rw [← method_of_locate hlocate]
  exact entries_not_options _ (entry_mem hmem)

/-- Of a request that fails with a fault the answer depends on nothing else. -/
theorem serve_of_failsWith (h : FailsWith m settings r d fault) :
    ((serve m settings r).run d).1 =
      match Answer.ofGitHubFault? fault with
      | some a => markOrigin settings r a
      | none => .crash := by
  obtain ⟨route, hroute, slots, body, hlocate, hbody, hfault⟩ := h
  have hreply : ∃ d', (reply m settings r).run d = (Answer.ofGitHubFault? fault, d') := by
    rw [reply, hlocate]
    exact ⟨_, act_of_failure (r := r) hbody (Prod.ext hfault rfl)⟩
  obtain ⟨d', hreply⟩ := hreply
  unfold serve
  split
  · next hoptions _ _ => exact absurd hoptions (not_options_of_locate hroute hlocate)
  · simp only [StateT.run_bind, hreply]
    cases Answer.ofGitHubFault? fault <;> rfl

theorem namesFault_of_kind (h : FailsWith m settings r d fault) (hnamed : fault.kind? ≠ none) :
    ((serve m settings r).run d).1.NamesFault := by
  obtain ⟨kind, hkind⟩ := Option.ne_none_iff_exists'.mp hnamed
  rw [serve_of_failsWith h]
  unfold Answer.ofGitHubFault?
  rw [hkind, Option.map_some]
  dsimp only
  refine ⟨?_, kind, mem_namedKinds hkind, _, markOrigin_content _ _ _⟩
  rw [markOrigin_status]
  exact gitHubStatus_mem fault

theorem crash_of_kind (h : FailsWith m settings r d fault) (hnameless : fault.kind? = none) :
    ((serve m settings r).run d).1 = .crash := by
  rw [serve_of_failsWith h]
  unfold Answer.ofGitHubFault?
  rw [hnameless]
  rfl

section Example

open Desk (outcome outcome_askGitHub outcome_bind_error)

/-- A request that fits one route only is led there. -/
theorem locate_of_only {rs : List (Route σ)} {route : Route σ} {path : String}
    {slots : List (String × String)} (h : route ∈ rs) (hslots : route.slots? path = some slots)
    (honly : (rs.filter fun x =>
      x.method == route.method && (x.slots? path).isSome).length = 1) :
    locate rs route.method path = .route route slots := by
  obtain ⟨found, hfound, slots', hsame, hfits, hlocate⟩ :=
    locate_of_slots h (Option.isSome_of_eq_some hslots)
  obtain ⟨only, honly⟩ := List.length_eq_one_iff.mp honly
  have hroute : route = only := by
    rw [← List.mem_singleton, ← honly, List.mem_filter]
    exact ⟨h, by simp [hslots]⟩
  have hother : found = only := by
    rw [← List.mem_singleton, ← honly, List.mem_filter]
    exact ⟨hfound, by simp [hsame, hfits]⟩
  subst hother hroute
  rw [hlocate, Option.some.inj (hfits.symm.trans hslots)]

def gitHubSettings : Settings :=
  { ordinarySettings with githubId := some "desk", githubSecret := some "secret" }

/-- A desk that GitHub is going to reply to in this way. -/
def deskWith (replies : List Http.Reply) : Desk Model.Script :=
  { ordinaryDesk with github := { replies } }

/-- A visitor signs in with GitHub. -/
def callbackRequest : Request where
  method := "POST"
  path := "/api/github/oauth/callback"
  query := [("code", "abc")]

/-- The route of that request. -/
def callbackRoute : Route Model.Script :=
  (gitHubRoutes gitHubSettings).head (List.cons_ne_nil _ _)

theorem callbackRoute_mem : callbackRoute ∈ gitHubRoutes gitHubSettings := List.head_mem _

theorem locate_callbackRequest :
    locate (routes (Model.Script.model "script") gitHubSettings) callbackRequest.method
      callbackRequest.path = .route (callbackRoute.below gitHubSettings.apiPath) [] :=
  locate_of_only (List.mem_map_of_mem (List.mem_cons_of_mem _
    (List.mem_append_right _ callbackRoute_mem))) (by decide +kernel) (by decide +kernel)

/-- A fault of the exchange of the code is one of the whole request. -/
theorem failsWith_callbackRequest {replies : List Http.Reply} {fault : GitHub.Fault}
    (h : ((GitHub.Client.exchangeCode {} "desk" "secret" "abc").run { replies }).1 =
      .error fault) :
    FailsWith (Model.Script.model "script") gitHubSettings callbackRequest (deskWith replies)
      fault := by
  refine ⟨callbackRoute, callbackRoute_mem, [], none, locate_callbackRequest, rfl, ?_⟩
  have hask : outcome (Desk.askGitHub (GitHub.Client.exchangeCode {} "desk" "secret" "abc"))
      (deskWith replies) = (.error (.github fault), { deskWith replies with
        github := ((GitHub.Client.exchangeCode {} "desk" "secret" "abc").run { replies }).2 }) := by
    rw [outcome_askGitHub]
    exact Prod.ext (congrArg (·.mapError Failure.github) h) rfl
  have hexchange : (Desk.exchangeCode gitHubSettings "abc" : Task Model.Script _) = do
      let token ← Desk.askGitHub (GitHub.Client.exchangeCode {} "desk" "secret" "abc")
      return (token, ← Desk.askGitHub (GitHub.Client.ofToken token).profile) := by
    have hsettings : gitHubSettings.github? = some ("desk", "secret") := rfl
    have hcode : Text.isBlankText "abc" = false := by decide +kernel
    simp only [Desk.exchangeCode, hsettings, hcode]
    rfl
  have hcode : codeOf { slots := Input.ofPairs [], query := Input.ofPairs callbackRequest.query } =
      .good "abc" := rfl
  simp only [callbackRoute, gitHubRoutes, List.head_cons, Handler.run, hcode, Checked.map]
  rw [Desk.gitHubLogin, hexchange,
    outcome_bind_error (outcome_bind_error (outcome_bind_error hask))]

/-- A reply that comes after a fault of the server, and is JSON but not an object. -/
def arrayReplies : List Http.Reply :=
  [.response { status := 503 }, .response { status := 200, body := [0x5b, 0x5d] }]

/-- A page of text. -/
def pageReplies : List Http.Reply :=
  [.response { status := 200, body := [0x3c, 0x68, 0x74, 0x6d, 0x6c, 0x3e] }]

def pageFault : GitHub.Fault :=
  .unreadable (.json "<html>".toList (.misplaced .expectingValue 0))

end Example

end Service

end ReviewDesk
