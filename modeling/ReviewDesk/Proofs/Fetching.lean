import ReviewDesk.Desk.GitHubAccess
import ReviewDesk.Proofs.Retries
import ReviewDesk.Proofs.Task

/-!
# Files from a repository

Files are fetched one after the other, each with a request of its own that may be made three times.
The reply that settles such a request decides: a text goes into the collection, a file that is not
there or is no text is left out, and anything else ends the whole. The main statement says so of
every list of paths and every list of replies. Any status below 400 counts as a text, though only
one from 200 to 299 says that there is a file; the statement ends with what follows from that.
-/
namespace ReviewDesk

namespace Files

variable {path content p c : String} {files : Files} {pairs : List (String × String)}

theorem mem_insert (h : (p, c) ∈ files.insert path content) :
    p = path ∧ c = content ∨ (p, c) ∈ files := by
  induction files with
  | nil => simpa [insert] using h
  | cons file rest ih =>
    obtain ⟨q, t⟩ := file
    rw [insert] at h
    split_ifs at h with hsame
    · have hq : q = path := eq_of_beq hsame
      rcases List.mem_cons.mp h with hfirst | hrest
      · rw [Prod.mk.injEq] at hfirst
        exact .inl ⟨hfirst.1.trans hq, hfirst.2⟩
      · exact .inr (List.mem_cons_of_mem _ hrest)
    · rcases List.mem_cons.mp h with hfirst | hrest
      · exact .inr (hfirst ▸ List.mem_cons_self)
      · exact (ih hrest).imp_right (List.mem_cons_of_mem _)

theorem mem_paths_insert :
    p ∈ (files.insert path content).map (·.1) ↔ p = path ∨ p ∈ files.map (·.1) := by
  induction files with
  | nil => simp [insert]
  | cons file rest ih =>
    obtain ⟨q, t⟩ := file
    rw [insert]
    split_ifs with hsame
    · simp [eq_of_beq hsame]
    · rw [List.map_cons, List.mem_cons, ih, List.map_cons, List.mem_cons]
      tauto

theorem mem_foldl_insert (h : (p, c) ∈ pairs.foldl (fun files f => insert f.1 f.2 files) files) :
    (p, c) ∈ pairs ∨ (p, c) ∈ files := by
  induction pairs generalizing files with
  | nil => exact .inr h
  | cons pair rest ih =>
    rcases ih h with hrest | hfiles
    · exact .inl (List.mem_cons_of_mem _ hrest)
    · rcases mem_insert hfiles with ⟨rfl, rfl⟩ | hfiles
      · exact .inl List.mem_cons_self
      · exact .inr hfiles

theorem mem_paths_foldl_insert :
    p ∈ (pairs.foldl (fun files f => insert f.1 f.2 files) files).map (·.1) ↔
      p ∈ pairs.map (·.1) ∨ p ∈ files.map (·.1) := by
  induction pairs generalizing files with
  | nil => simp
  | cons pair rest ih =>
    rw [List.foldl_cons, ih, mem_paths_insert, List.map_cons, List.mem_cons]
    tauto

end Files

namespace GitHub

/-! ## Requests and their replies -/

/-- A request of the log and the reply that it got. -/
def Answered (log : List Http.Event) (replies : List Http.Reply) (request : Http.Request)
    (reply : Http.Reply) : Prop :=
  ∃ n, (log.filterMap Http.Event.request?)[n]? = some request ∧ reply = nextReply (replies.drop n)

section Answered

variable {log log' : List Http.Event} {replies : List Http.Reply} {request : Http.Request}
  {reply : Http.Reply}

theorem Answered.append (h : Answered log replies request reply) (log' : List Http.Event) :
    Answered (log ++ log') replies request reply := by
  obtain ⟨n, hn, hreply⟩ := h
  have hlength := (List.getElem?_eq_some_iff.mp hn).1
  exact ⟨n, by rw [List.filterMap_append, List.getElem?_append_left hlength, hn], hreply⟩

theorem Answered.after
    (h : Answered log' (replies.drop (log.filterMap Http.Event.request?).length) request reply) :
    Answered (log ++ log') replies request reply := by
  obtain ⟨n, hn, hreply⟩ := h
  refine ⟨(log.filterMap Http.Event.request?).length + n, ?_, ?_⟩
  · rw [List.filterMap_append, List.getElem?_append_right (Nat.le_add_right _ _),
      Nat.add_sub_cancel_left, hn]
  · rw [hreply, List.drop_drop]

/-- One request more is made than there are replies that ask for another. -/
theorem requests_course (request : Http.Request) (attempt : Nat) (again : List Http.Reply) :
    (course request attempt again).filterMap Http.Event.request? =
      List.replicate (again.length + 1) request := by
  induction again generalizing attempt with
  | nil => rfl
  | cons reply rest ih =>
    simp only [course, List.filterMap_cons, Http.Event.request?, ih, List.length_cons]
    rfl

theorem settling_eq (more : Nat) (replies : List Http.Reply) :
    settling more replies = nextReply (replies.drop (repeated more replies).length) := by
  have hparts : repeated more replies ++
      ((replies.take more).dropWhile asksAgain ++ replies.drop more) = replies := by
    rw [repeated, ← List.append_assoc, List.takeWhile_append_dropWhile, List.take_append_drop]
  have hdrop : (repeated more replies ++ ((replies.take more).dropWhile asksAgain ++
      replies.drop more)).drop (repeated more replies).length =
        (replies.take more).dropWhile asksAgain ++ replies.drop more := List.drop_left
  rw [hparts] at hdrop
  rw [hdrop, settling]

/-- The last request of a course gets the reply that settles it. -/
theorem answered_course (request : Http.Request) (attempt more : Nat)
    (replies : List Http.Reply) :
    Answered (course request attempt (repeated more replies)) replies request
      (settling more replies) := by
  refine ⟨(repeated more replies).length, ?_, settling_eq more replies⟩
  rw [requests_course]
  exact List.getElem?_replicate_of_lt (Nat.lt_succ_self _)

end Answered

/-! ## One file -/

/-- The request for a file. -/
def fileRequest (c : Client) (owner repo path : String) (ref : Option String) :
    Reading Http.Request :=
  match Client.contentsEndpoint owner repo path ref with
  | .error fault => .error fault
  | .ok endpoint =>
    match Http.resolve host endpoint with
    | .error fault => .error (.url fault)
    | .ok url => .ok (c.request url rawMedia)

/-- What a response says of a file. -/
def contentOf (r : Http.Response) : Option String :=
  if r.status == 404 then none else (Text.decodeUtf8 r.body).toOption

/-- The service after a request that may be made three times. -/
def afterAttempts (request : Http.Request) (p : Http.Peer) : Http.Peer :=
  ⟨p.replies.drop ((repeated (maxAttempts - 1) p.replies).length + 1),
    p.log ++ course request 1 (repeated (maxAttempts - 1) p.replies)⟩

/-- Asking for a file takes one request, which may be made three times. -/
theorem run_fileText (c : Client) (owner repo path : String) (ref : Option String)
    (p : Http.Peer) :
    ∃ endpoint, (c.fileText owner repo path ref).run p =
      match fileRequest c owner repo path ref with
      | .error fault => (.error fault, p)
      | .ok request =>
        ((judge endpoint true (settling (maxAttempts - 1) p.replies)).map contentOf,
          afterAttempts request p) := by
  rw [Client.fileText, run_bind, run_liftReading]
  unfold fileRequest
  cases Client.contentsEndpoint owner repo path ref with
  | error fault => exact ⟨"", rfl⟩
  | ok endpoint =>
    refine ⟨endpoint, ?_⟩
    dsimp only
    rw [run_bind, Client.get]
    cases Http.resolve host endpoint with
    | error fault => rfl
    | ok url =>
      dsimp only
      rw [run_attemptFrom_eq]
      cases judge endpoint true (settling (maxAttempts - 1) p.replies) with
      | error fault => rfl
      | ok r =>
        dsimp only [Except.map, contentOf]
        split_ifs <;> rfl

/-! ## File after file -/

/-- The requests for files in order, each with the reply that settles it. -/
def endings : List String → List Http.Reply → List (String × Http.Reply)
  | [], _ => []
  | path :: rest, replies => (path, settling (maxAttempts - 1) replies) ::
      endings rest (replies.drop ((repeated (maxAttempts - 1) replies).length + 1))

/-- The reply lets the next file be asked for. -/
def Passed (reply : Http.Reply) : Prop := ∃ r, reply = .response r ∧ Accepted true r

/-- The text that the reply gives, if it does. -/
def textOf? : Http.Reply → Option String
  | .response r => contentOf r
  | _ => none

/-- The files that requests end in. -/
def texts (ends : List (String × Http.Reply)) : List (String × String) :=
  ends.filterMap fun e => (textOf? e.2).map fun text => (e.1, text)

theorem fst_mem_of_mem_endings {paths : List String} {replies : List Http.Reply}
    {e : String × Http.Reply} (h : e ∈ endings paths replies) : e.1 ∈ paths := by
  induction paths generalizing replies with
  | nil => cases h
  | cons path rest ih =>
    rcases List.mem_cons.mp h with rfl | hrest
    · exact List.mem_cons_self
    · exact List.mem_cons_of_mem _ (ih hrest)

theorem judge_of_not_passed {reply : Http.Reply} (h : ¬Passed reply) (endpoint : String) :
    ∃ fault, judge endpoint true reply = .error fault := by
  cases reply with
  | unreachable message => exact ⟨_, rfl⟩
  | noTransport message => exact ⟨_, rfl⟩
  | response r =>
    obtain ⟨fault, hfault, -⟩ := (concluded_judge endpoint true r).raised fun haccepted =>
      h ⟨r, rfl, haccepted⟩
    exact ⟨fault, hfault⟩

/-! ## What a collection is made of -/

/-- A status that tells of success. -/
def Succeeds (status : Nat) : Prop := 200 ≤ status ∧ status < 300

instance : DecidablePred Succeeds := fun _ => inferInstanceAs (Decidable (_ ∧ _))

/-- The files are what the requests for them ended in, if a status with `succeeds` is taken for one
that a file comes with. -/
structure Collected (succeeds : Nat → Prop) (paths : List String)
    (ends : List (String × Http.Reply)) (files : Files) : Prop where
  genuine : ∀ path text, (path, text) ∈ files → path ∈ paths ∧ ∃ r,
    (path, .response r) ∈ ends ∧ succeeds r.status ∧ Text.decodeUtf8 r.body = .ok text
  missing : ∀ path ∈ paths, path ∉ files.map (·.1) ↔ ∀ reply, (path, reply) ∈ ends → ∃ r,
    reply = .response r ∧
      (r.status = 404 ∨ succeeds r.status ∧ ∀ text, Text.decodeUtf8 r.body ≠ .ok text)
  settled : ∀ path reply, (path, reply) ∈ ends → ∃ r,
    reply = .response r ∧ (r.status = 404 ∨ succeeds r.status)

theorem contentOf_eq_some {r : Http.Response} {text : String} :
    contentOf r = some text ↔ r.status ≠ 404 ∧ Text.decodeUtf8 r.body = .ok text := by
  unfold contentOf
  split_ifs with hmissing
  · simp [eq_of_beq hmissing]
  · have hstatus : r.status ≠ 404 := by simpa using hmissing
    cases Text.decodeUtf8 r.body <;> simp [Except.toOption, hstatus]

theorem mem_texts {ends : List (String × Http.Reply)} {path text : String} :
    (path, text) ∈ texts ends ↔ ∃ reply, (path, reply) ∈ ends ∧ textOf? reply = some text := by
  simp only [texts, List.mem_filterMap, Option.map_eq_some_iff, Prod.mk.injEq]
  constructor
  · rintro ⟨⟨_, reply⟩, he, _, htext, rfl, rfl⟩
    exact ⟨reply, he, htext⟩
  · rintro ⟨reply, he, htext⟩
    exact ⟨(path, reply), he, text, htext, rfl, rfl⟩

/-- Whatever is taken for success, the files are those that the replies give. -/
theorem collected_texts {succeeds : Nat → Prop} (hsucceeds : ¬succeeds 404) {paths : List String}
    {ends : List (String × Http.Reply)} (hpaths : ∀ e ∈ ends, e.1 ∈ paths)
    (hends : ∀ path reply, (path, reply) ∈ ends → ∃ r,
      reply = .response r ∧ (r.status = 404 ∨ succeeds r.status)) :
    Collected succeeds paths ends (Files.ofPairs (texts ends)) where
  genuine path text hfile := by
    have hpair : (path, text) ∈ texts ends := (Files.mem_foldl_insert hfile).resolve_right nofun
    obtain ⟨reply, he, htext⟩ := mem_texts.mp hpair
    obtain ⟨r, rfl, hstatus⟩ := hends path reply he
    obtain ⟨hfound, hdecoded⟩ := contentOf_eq_some.mp htext
    exact ⟨hpaths _ he, r, he, hstatus.resolve_left hfound, hdecoded⟩
  missing path hpath := by
    have hkeys : path ∈ (Files.ofPairs (texts ends)).map (·.1) ↔ ∃ text,
        (path, text) ∈ texts ends := by
      rw [Files.ofPairs, Files.mem_paths_foldl_insert]
      simp
    rw [hkeys]
    constructor
    · intro hnone reply he
      obtain ⟨r, rfl, hstatus⟩ := hends path reply he
      refine ⟨r, rfl, hstatus.imp_right fun hsuccess => ⟨hsuccess, fun text htext => hnone ?_⟩⟩
      have hfound : r.status ≠ 404 := fun h => hsucceeds (h ▸ hsuccess)
      exact ⟨text, mem_texts.mpr ⟨_, he, contentOf_eq_some.mpr ⟨hfound, htext⟩⟩⟩
    · rintro hall ⟨text, hpair⟩
      obtain ⟨reply, he, htext⟩ := mem_texts.mp hpair
      obtain ⟨r, rfl, hstatus⟩ := hall reply he
      obtain ⟨hfound, hdecoded⟩ := contentOf_eq_some.mp htext
      exact (hstatus.resolve_left hfound).2 text hdecoded
  settled := hends

end GitHub

namespace Desk

open GitHub

variable {σ : Type} {c : Client} {owner repo path : String} {ref : Option String} (d : Desk σ)

/-- A request for a file that ends well. -/
theorem outcome_askFile_ok {request : Http.Request} {r : Http.Response}
    (hrequest : fileRequest c owner repo path ref = .ok request)
    (hreply : settling (maxAttempts - 1) d.github.replies = .response r)
    (haccepted : Accepted true r) :
    outcome (askGitHub (c.fileText owner repo path ref)) d =
      (.ok (contentOf r), { d with github := afterAttempts request d.github }) := by
  obtain ⟨endpoint, hrun⟩ := run_fileText c owner repo path ref d.github
  rw [hrequest, hreply, (concluded_judge endpoint true r).returned haccepted] at hrun
  rw [outcome_askGitHub, hrun]
  rfl

theorem outcome_askFile_error
    (h : ∀ request, fileRequest c owner repo path ref = .ok request →
      ¬Passed (settling (maxAttempts - 1) d.github.replies)) :
    ∃ failure d', outcome (askGitHub (c.fileText owner repo path ref)) d =
      (.error failure, d') := by
  obtain ⟨endpoint, hrun⟩ := run_fileText c owner repo path ref d.github
  rw [outcome_askGitHub, hrun]
  cases hrequest : fileRequest c owner repo path ref with
  | error fault => exact ⟨_, _, rfl⟩
  | ok request =>
    obtain ⟨fault, hfault⟩ := judge_of_not_passed (h request hrequest) endpoint
    rw [hfault]
    exact ⟨_, _, rfl⟩

/-- Every file can be asked for, and every request ends well. -/
structure AllPassed (c : Client) (owner repo : String) (ref : Option String) (paths : List String)
    (replies : List Http.Reply) : Prop where
  requests : ∀ path ∈ paths, ∃ request, fileRequest c owner repo path ref = .ok request
  endings : ∀ e ∈ endings paths replies, Passed e.2

theorem allPassed_cons {rest : List String} {replies : List Http.Reply} :
    AllPassed c owner repo ref (path :: rest) replies ↔
      (∃ request, fileRequest c owner repo path ref = .ok request) ∧
      Passed (settling (maxAttempts - 1) replies) ∧
      AllPassed c owner repo ref rest
        (replies.drop ((repeated (maxAttempts - 1) replies).length + 1)) := by
  constructor
  · rintro ⟨hrequests, hends⟩
    rw [GitHub.endings] at hends
    exact ⟨hrequests path List.mem_cons_self, hends _ List.mem_cons_self,
      fun p hp => hrequests p (List.mem_cons_of_mem _ hp),
      fun e he => hends e (List.mem_cons_of_mem _ he)⟩
  · rintro ⟨hrequest, hpassed, hrequests, hends⟩
    refine ⟨fun p hp => ?_, fun e he => ?_⟩
    · rcases List.mem_cons.mp hp with rfl | hp
      · exact hrequest
      · exact hrequests p hp
    · rcases List.mem_cons.mp he with rfl | he
      · exact hpassed
      · exact hends e he

/-- One file at a time: the text, if there is one, goes to the others. -/
theorem outcome_fetchAll_cons {request : Http.Request} {r : Http.Response} {rest : List String}
    (files : Files) (hrequest : fileRequest c owner repo path ref = .ok request)
    (hreply : settling (maxAttempts - 1) d.github.replies = .response r)
    (haccepted : Accepted true r) :
    outcome (fetchAll c owner repo ref (path :: rest) files) d =
      outcome (fetchAll c owner repo ref rest
        (((contentOf r).map fun text => (path, text)).toList.foldl
          (fun files f => Files.insert f.1 f.2 files) files))
        { d with github := afterAttempts request d.github } := by
  rw [fetchAll, outcome_bind_ok (outcome_askFile_ok d hrequest hreply haccepted)]
  cases contentOf r <;> rfl

/-- What all requests together come to, if each of them ends well. -/
theorem outcome_fetchAll_ok {paths : List String} (files : Files)
    (h : AllPassed c owner repo ref paths d.github.replies) :
    ∃ log, (outcome (fetchAll c owner repo ref paths files) d).1 =
        .ok ((texts (endings paths d.github.replies)).foldl
          (fun files f => Files.insert f.1 f.2 files) files) ∧
      (outcome (fetchAll c owner repo ref paths files) d).2.github.log = d.github.log ++ log ∧
      ∀ e ∈ endings paths d.github.replies, ∃ request,
        fileRequest c owner repo e.1 ref = .ok request ∧
        Answered log d.github.replies request e.2 := by
  induction paths generalizing d files with
  | nil => exact ⟨[], rfl, (List.append_nil _).symm, nofun⟩
  | cons path rest ih =>
    obtain ⟨⟨request, hrequest⟩, ⟨r, hreply, haccepted⟩, hrest⟩ := allPassed_cons.mp h
    obtain ⟨log, hfiles, hlog, hanswered⟩ := ih { d with github := afterAttempts request d.github }
      (((contentOf r).map fun text => (path, text)).toList.foldl
        (fun files f => Files.insert f.1 f.2 files) files) hrest
    rw [outcome_fetchAll_cons d files hrequest hreply haccepted]
    refine ⟨course request 1 (repeated (maxAttempts - 1) d.github.replies) ++ log, ?_, ?_, ?_⟩
    · rw [hfiles, GitHub.endings, hreply, texts, texts, List.filterMap_cons]
      cases hcontent : contentOf r with
      | none => simp [textOf?, hcontent, afterAttempts]
      | some text => simp [textOf?, hcontent, afterAttempts]
    · rw [hlog, afterAttempts, List.append_assoc]
    · intro e he
      rcases List.mem_cons.mp he with rfl | he
      · exact ⟨request, hrequest, (answered_course request 1 _ _).append log⟩
      · -- The later requests count from where this file left the replies.
        obtain ⟨request', hrequest', hlater⟩ := hanswered e he
        refine ⟨request', hrequest', Answered.after ?_⟩
        rw [requests_course, List.length_replicate]
        exact hlater

theorem outcome_fetchAll_error {paths : List String} (files : Files)
    (h : ¬AllPassed c owner repo ref paths d.github.replies) :
    ∃ failure, (outcome (fetchAll c owner repo ref paths files) d).1 = .error failure := by
  induction paths generalizing d files with
  | nil => exact absurd ⟨nofun, nofun⟩ h
  | cons path rest ih =>
    by_cases hfirst : ∃ request, fileRequest c owner repo path ref = .ok request ∧
        Passed (settling (maxAttempts - 1) d.github.replies)
    · obtain ⟨request, hrequest, r, hreply, haccepted⟩ := hfirst
      rw [outcome_fetchAll_cons d files hrequest hreply haccepted]
      refine ih _ _ fun hrest => h (allPassed_cons.mpr ⟨⟨request, hrequest⟩, ?_, hrest⟩)
      exact ⟨r, hreply, haccepted⟩
    · obtain ⟨failure, d', hfailure⟩ := outcome_askFile_error d fun request hrequest hpassed =>
        hfirst ⟨request, hrequest, hpassed⟩
      rw [fetchAll, outcome_bind_error hfailure]
      exact ⟨failure, rfl⟩

theorem outcome_clientFor {caller : Account} (hconnected : caller.hasGitHub = true) :
    outcome (clientFor caller) d = (.ok (.ofToken (caller.githubToken.getD "")), d) := by
  rw [clientFor, if_pos hconnected]
  rfl

theorem outcome_namedFiles {caller : Account} (hconnected : caller.hasGitHub = true)
    (owner repo : String) (paths : List String) :
    outcome (namedFiles caller owner repo paths) d =
      outcome (fetchAll (.ofToken (caller.githubToken.getD "")) owner repo none paths []) d := by
  rw [namedFiles, outcome_bind_ok (outcome_clientFor d hconnected)]

/-- All files come back, or the whole fails. If they come back, they are what the requests for them
ended in, with any status below 400 taken for success; and with only those from 200 to 299 taken for
it just if no request ended in another one. Each request was sent, and got the reply that it ended
in. -/
theorem namedFiles_collects {caller : Account} (hconnected : caller.hasGitHub = true)
    (owner repo : String) (paths : List String) :
    ((∃ files, (outcome (namedFiles caller owner repo paths) d).1 = .ok files) ↔
      AllPassed (.ofToken (caller.githubToken.getD "")) owner repo none paths d.github.replies) ∧
    ∀ files, (outcome (namedFiles caller owner repo paths) d).1 = .ok files →
      Collected (· < 400) paths (endings paths d.github.replies) files ∧
      (Collected Succeeds paths (endings paths d.github.replies) files ↔
        ∀ path r, (path, .response r) ∈ endings paths d.github.replies →
          r.status = 404 ∨ Succeeds r.status) ∧
      ∃ log, (outcome (namedFiles caller owner repo paths) d).2.github.log =
          d.github.log ++ log ∧
        ∀ e ∈ endings paths d.github.replies, ∃ request,
          fileRequest (.ofToken (caller.githubToken.getD "")) owner repo e.1 none = .ok request ∧
          Answered log d.github.replies request e.2 := by
  rw [outcome_namedFiles d hconnected]
  by_cases hpassed : AllPassed (.ofToken (caller.githubToken.getD "")) owner repo none paths
      d.github.replies
  · obtain ⟨log, hfiles, hlog, hanswered⟩ := outcome_fetchAll_ok d [] hpassed
    refine ⟨iff_of_true ⟨_, hfiles⟩ hpassed, fun files hok => ?_⟩
    obtain rfl := Except.ok.inj (hfiles.symm.trans hok)
    have hends : ∀ path reply, (path, reply) ∈ endings paths d.github.replies → ∃ r,
        reply = .response r ∧ (r.status = 404 ∨ r.status < 400) := by
      intro path reply he
      obtain ⟨r, hreply, haccepted⟩ := hpassed.endings _ he
      exact ⟨r, hreply, haccepted.symm.imp_left And.right⟩
    refine ⟨?_, ⟨fun hcollected path r he => ?_, fun hstatus => ?_⟩, log, hlog, hanswered⟩
    · exact collected_texts (by decide) (fun e he => fst_mem_of_mem_endings he) hends
    · obtain ⟨r', hreply, hsettled⟩ := hcollected.settled path _ he
      cases hreply
      exact hsettled
    · refine collected_texts (by decide) (fun e he => fst_mem_of_mem_endings he) ?_
      intro path reply he
      obtain ⟨r, rfl, -⟩ := hends path reply he
      exact ⟨r, rfl, hstatus path r he⟩
  · obtain ⟨failure, hfailure⟩ := outcome_fetchAll_error d [] hpassed
    have hnone : ∀ files, (outcome (fetchAll (.ofToken (caller.githubToken.getD "")) owner repo none
        paths []) d).1 ≠ .ok files := by
      intro files hok
      rw [hfailure] at hok
      cases hok
    exact ⟨iff_of_false (fun ⟨files, hok⟩ => hnone files hok) hpassed,
      fun files hok => absurd hok (hnone files)⟩

section Example

/-- Somebody who has linked an account. -/
def reader : Account where
  id := .ofNat 1
  username := "eve"
  email := "eve@example.com"
  createdAt := .utc 0
  updatedAt := .utc 0
  githubId := some 1
  githubToken := some "token"

/-- A desk that GitHub is going to reply to in this way. -/
def readingDesk (replies : List Http.Reply) : Desk Unit :=
  { now := .utc 0, ids := Uuid.ofNat, github := { replies }, model := () }

/-- A fault of the server, a file, no file, and a file that is no text. -/
def mixedReplies : List Http.Reply :=
  [.response { status := 503 }, .response { status := 200, body := [0x78] },
    .response { status := 404 }, .response { status := 200, body := [0xff] }]

theorem namedFiles_collects_mixed :
    reader.hasGitHub = true ∧
      (outcome (namedFiles reader "octo" "hello" ["a.py", "b.py", "a.py"])
        (readingDesk mixedReplies)).1 = .ok [("a.py", "x")] ∧
      Collected Succeeds ["a.py", "b.py", "a.py"]
        (endings ["a.py", "b.py", "a.py"] mixedReplies) [("a.py", "x")] := by
  have hfiles : (outcome (namedFiles reader "octo" "hello" ["a.py", "b.py", "a.py"])
      (readingDesk mixedReplies)).1 = .ok [("a.py", "x")] := by
    decide +kernel
  have hends : endings ["a.py", "b.py", "a.py"] mixedReplies =
      [("a.py", .response { status := 200, body := [0x78] }), ("b.py", .response { status := 404 }),
        ("a.py", .response { status := 200, body := [0xff] })] := by
    decide +kernel
  have hconnected : reader.hasGitHub = true := by decide
  obtain ⟨-, hcollected⟩ := namedFiles_collects (readingDesk mixedReplies) hconnected
    "octo" "hello" ["a.py", "b.py", "a.py"]
  refine ⟨hconnected, hfiles, (hcollected _ hfiles).2.1.mpr fun path r he => ?_⟩
  change (path, Http.Reply.response r) ∈ endings _ mixedReplies at he
  rw [hends] at he
  simp only [List.mem_cons, Prod.mk.injEq, Http.Reply.response.injEq, List.not_mem_nil] at he
  rcases he with ⟨-, rfl⟩ | ⟨-, rfl⟩ | ⟨-, rfl⟩ | he
  · exact .inr (by decide)
  · exact .inl rfl
  · exact .inr (by decide)
  · exact he.elim

/-- A repository that has been moved. -/
def moved : Http.Response := { status := 301, body := [0x4d, 0x6f, 0x76, 0x65, 0x64] }

/-- What is said about the move comes back in place of the file. -/
theorem namedFiles_moved :
    (outcome (namedFiles reader "octo" "hello" ["a.py"]) (readingDesk [.response moved])).1 =
        .ok [("a.py", "Moved")] ∧
      ¬Collected Succeeds ["a.py"] (endings ["a.py"] [.response moved]) [("a.py", "Moved")] := by
  refine ⟨by decide +kernel, fun hcollected => ?_⟩
  have he : ("a.py", .response moved) ∈ endings ["a.py"] [.response moved] := by decide +kernel
  obtain ⟨r, hreply, hsettled⟩ := hcollected.settled "a.py" _ he
  obtain rfl := Http.Reply.response.inj hreply
  revert hsettled
  decide

end Example

end Desk

end ReviewDesk
