import Mathlib.Data.List.Basic
import ReviewDesk.GitHub.Client

/-!
# How inquiries to GitHub end

GitHub is asked six things. Each inquiry goes the same way: an address is made of what is asked,
requests are made until a reply settles the matter, and a value is read from the response. A fault
can come up at each of the three, and callers know most faults by name. The main statement says
which ones they do not: an address that cannot be sent, a reply that is no JSON where JSON is read,
and no way to send anything.
-/
namespace ReviewDesk.GitHub

variable {α β : Type}

/-! ## Following a call -/

theorem run_bind (call : Call α) (next : α → Call β) (p : Http.Peer) :
    (call >>= next).run p =
      match call.run p with
      | (.ok a, p') => (next a).run p'
      | (.error fault, p') => (.error fault, p') := by
  change (call.run p >>= fun q => (ExceptT.bindCont next q.1).run q.2) = _
  rcases call.run p with ⟨_ | _, p'⟩ <;> rfl

@[simp] theorem run_liftReading (x : Reading α) (p : Http.Peer) :
    (Client.liftReading x).run p = (x, p) := by
  cases x <;> rfl

theorem liftReading_bind (x : Reading α) (next : α → Reading β) :
    Client.liftReading (x >>= next) = Client.liftReading x >>= (Client.liftReading <| next ·) := by
  cases x <;> rfl

theorem liftReading_mapM (f : α → Reading β) (items : List α) :
    Client.liftReading (items.mapM f) = items.mapM (Client.liftReading <| f ·) := by
  induction items with
  | nil => rfl
  | cons item rest ih =>
    simp only [List.mapM_cons, liftReading_bind, ih]
    rfl

/-! ## Faults without a name -/

/-- The reading ends in a fault that callers do not know by name. -/
def Untold (x : Reading α) : Prop := ∃ fault, x = .error fault ∧ fault.kind? = none

@[simp] theorem untold_ok (a : α) : ¬ Untold (.ok a : Reading α) := by
  rintro ⟨fault, h, -⟩
  cases h

@[simp] theorem untold_error (fault : Fault) :
    Untold (.error fault : Reading α) ↔ fault.kind? = none := by
  simp [Untold]

@[simp] theorem untold_bind (x : Reading α) (next : α → Reading β) :
    Untold (x >>= next) ↔ Untold x ∨ ∃ a, x = .ok a ∧ Untold (next a) := by
  cases x <;> simp [bind, Except.bind]

@[simp] theorem untold_map (f : α → β) (x : Reading α) : Untold (f <$> x) ↔ Untold x := by
  cases x <;> simp [Functor.map, Except.map]

theorem untold_run_bind (call : Call α) (next : α → Call β) (p : Http.Peer) :
    Untold ((call >>= next).run p).1 ↔
      Untold (call.run p).1 ∨
        ∃ a, (call.run p).1 = .ok a ∧ Untold ((next a).run (call.run p).2).1 := by
  rw [run_bind]
  rcases call.run p with ⟨_ | _, p'⟩ <;> simp

/-! ## Faults of a reply -/

/-- The faults that come of what a reply says. -/
def Fault.isOfReply : Fault → Bool
  | .shape _ _ | .refused _ | .noToken => true
  | _ => false

/-- Whatever goes wrong in the reading is put down to what a reply says. -/
def BlamesReply (x : Reading α) : Prop := ∀ fault, x = .error fault → fault.isOfReply = true

theorem BlamesReply.not_untold {x : Reading α} (h : BlamesReply x) : ¬ Untold x := by
  rintro ⟨fault, hfault, hnone⟩
  have hreply := h fault hfault
  cases fault <;> simp [Fault.isOfReply, Fault.kind?] at hreply hnone

theorem BlamesReply.ne_input {x : Reading α} (h : BlamesReply x) (fault : InputFault) :
    x ≠ .error (.input fault) := by
  intro hfault
  have hreply := h _ hfault
  cases hreply

@[simp] theorem blamesReply_ok (a : α) : BlamesReply (.ok a : Reading α) := by
  simp [BlamesReply]

@[simp] theorem blamesReply_pure (a : α) : BlamesReply (pure a : Reading α) := blamesReply_ok a

@[simp] theorem blamesReply_error (fault : Fault) :
    BlamesReply (.error fault : Reading α) ↔ fault.isOfReply = true := by
  simp [BlamesReply]

@[simp] theorem blamesReply_bind (x : Reading α) (next : α → Reading β) :
    BlamesReply (x >>= next) ↔ BlamesReply x ∧ ∀ a, x = .ok a → BlamesReply (next a) := by
  cases x <;> simp [bind, Except.bind]

@[simp] theorem blamesReply_map (f : α → β) (x : Reading α) :
    BlamesReply (f <$> x) ↔ BlamesReply x := by
  cases x <;> simp [Functor.map, Except.map]

theorem blamesReply_mapM {f : α → Reading β} (h : ∀ a, BlamesReply (f a)) (items : List α) :
    BlamesReply (items.mapM f) := by
  induction items with
  | nil => simp
  | cons item rest ih => simp [h, ih]

section Records

variable (endpoint : String) (fields : Fields) (key : String)

@[simp] theorem blamesReply_requireText : BlamesReply (requireText endpoint fields key) := by
  unfold requireText
  split <;> simp [Fault.isOfReply]

@[simp] theorem blamesReply_optionalText : BlamesReply (optionalText endpoint fields key) := by
  unfold optionalText
  split <;> simp [Fault.isOfReply]

@[simp] theorem blamesReply_requireBoolean : BlamesReply (requireBoolean endpoint fields key) := by
  unfold requireBoolean
  split <;> simp [Fault.isOfReply]

@[simp] theorem blamesReply_requireInteger : BlamesReply (requireInteger endpoint fields key) := by
  unfold requireInteger
  split <;> simp [Fault.isOfReply]

@[simp] theorem blamesReply_requireObject (v : Json) : BlamesReply (requireObject endpoint v) := by
  unfold requireObject
  split <;> simp [Fault.isOfReply]

theorem blamesReply_profile : BlamesReply (Profile.read endpoint fields) := by
  simp [Profile.read]

theorem blamesReply_repository : BlamesReply (Repository.read endpoint fields) := by
  simp [Repository.read]

theorem blamesReply_treeEntry (v : Json) : BlamesReply (TreeEntry.read endpoint v) := by
  simp [TreeEntry.read]

theorem blamesReply_tree : BlamesReply (Tree.read endpoint fields) := by
  unfold Tree.read
  split
  · simp [blamesReply_mapM (blamesReply_treeEntry endpoint)]
  · simp [Fault.isOfReply]

end Records

/-! ## The reply that settles a request -/

/-- A response after which the request is made again if it may be. -/
def asksAgain : Http.Reply → Bool
  | .response r => isRetryable r.status
  | _ => false

/-- The reply to the next request. -/
def nextReply (replies : List Http.Reply) : Http.Reply :=
  replies.headD (.unreachable "no response scripted")

/-- The reply that settles a request which may be made `more` times after the first: the first one
that does not ask for another attempt, or the one to the last attempt. -/
def settling (more : Nat) (replies : List Http.Reply) : Http.Reply :=
  nextReply ((replies.take more).dropWhile asksAgain ++ replies.drop more)

theorem settling_zero (replies : List Http.Reply) : settling 0 replies = nextReply replies := by
  simp [settling]

theorem settling_succ (more : Nat) (replies : List Http.Reply) :
    settling (more + 1) replies =
      if asksAgain (nextReply replies) then settling more replies.tail else nextReply replies := by
  cases replies with
  | nil => simp [settling, nextReply, asksAgain]
  | cons reply rest => by_cases h : asksAgain reply <;> simp [settling, nextReply, h]

/-- The replies that a request is made again after. -/
def repeated (more : Nat) (replies : List Http.Reply) : List Http.Reply :=
  (replies.take more).takeWhile asksAgain

theorem repeated_zero (replies : List Http.Reply) : repeated 0 replies = [] := by
  simp [repeated]

theorem repeated_succ (more : Nat) (replies : List Http.Reply) :
    repeated (more + 1) replies =
      if asksAgain (nextReply replies) then nextReply replies :: repeated more replies.tail
      else [] := by
  cases replies with
  | nil => simp [repeated, nextReply, asksAgain]
  | cons reply rest => by_cases h : asksAgain reply <;> simp [repeated, nextReply, h]

/-- What the reply makes of a request that it settles. -/
def judge (endpoint : String) (mayMiss : Bool) : Http.Reply → Reading Http.Response
  | .response r =>
    if r.status < 400 || (mayMiss && r.status == 404) then .ok r
    else .error (.status r.status endpoint)
  | .unreachable message => .error (.unreachable message)
  | .noTransport message => .error (.noTransport message)

theorem not_untold_judge_response (endpoint : String) (mayMiss : Bool) (r : Http.Response) :
    ¬ Untold (judge endpoint mayMiss (.response r)) := by
  rw [judge]
  split_ifs <;> simp [Fault.kind?]

theorem judge_response_eq_ok {endpoint : String} {mayMiss : Bool} {r r' : Http.Response} :
    judge endpoint mayMiss (.response r) = .ok r' ↔
      r = r' ∧ (r.status < 400 ∨ mayMiss = true ∧ r.status = 404) := by
  have haccepted : (r.status < 400 || (mayMiss && r.status == 404)) = true ↔
      r.status < 400 ∨ mayMiss = true ∧ r.status = 404 := by simp
  rw [judge, ← haccepted]
  split_ifs with h
  · simp only [h, and_true, Except.ok.injEq]
  · simp only [h, and_false, reduceCtorEq]

/-- The service after one more request. -/
def afterRequest (request : Http.Request) (p : Http.Peer) : Http.Peer :=
  { p with replies := p.replies.tail, log := p.log ++ [.request request] }

theorem run_exchange (request : Http.Request) (p : Http.Peer) :
    (liftM (Http.Peer.exchange request) : Call Http.Reply).run p =
      (.ok (nextReply p.replies), afterRequest request p) := rfl

/-- The pause after an attempt. A reply that is no response asks for none of its own. -/
def pauseAfter : Http.Reply → Nat → Float
  | .response r, attempt => retryDelay r attempt
  | _, attempt => backoff attempt

/-- What happens from attempt number `attempt` on, if requests are made again after these replies:
a pause stands between a request and the next. -/
def course (request : Http.Request) : Nat → List Http.Reply → List Http.Event
  | _, [] => [.request request]
  | attempt, reply :: rest =>
    .request request :: .pause (pauseAfter reply attempt) :: course request (attempt + 1) rest

section Attempts

variable {request : Http.Request} {endpoint : String} {mayMiss : Bool} {more attempt : Nat}
  {p : Http.Peer}

/-- The last attempt, or one that need not be made again. -/
theorem run_attemptFrom_settled (h : more = 0 ∨ asksAgain (nextReply p.replies) = false) :
    (attemptFrom request endpoint mayMiss more attempt).run p =
      (judge endpoint mayMiss (nextReply p.replies), afterRequest request p) := by
  rw [attemptFrom.eq_def, run_bind, run_exchange]
  dsimp only
  cases hreply : nextReply p.replies with
  | unreachable message => rfl
  | noTransport message => rfl
  | response r =>
    by_cases haccepted : (r.status < 400 || (mayMiss && r.status == 404)) = true
    · simp only [judge, haccepted, ↓reduceIte]
      rfl
    · simp only [judge, haccepted]
      cases more with
      | zero => rfl
      | succ more =>
        have hlast : isRetryable r.status = false := by simpa [hreply, asksAgain] using h
        simp only [hlast]
        rfl

/-- An attempt that is followed by another. -/
theorem run_attemptFrom_again {r : Http.Response} (hreply : nextReply p.replies = .response r)
    (hagain : isRetryable r.status = true) :
    (attemptFrom request endpoint mayMiss (more + 1) attempt).run p =
      (attemptFrom request endpoint mayMiss more (attempt + 1)).run
        ⟨p.replies.tail, p.log ++ [.request request] ++ [.pause (retryDelay r attempt)]⟩ := by
  have hstatus : r.status = 429 ∨ 500 ≤ r.status ∧ r.status < 600 := by
    simpa [isRetryable] using hagain
  -- No status that asks for another attempt is one that a request is content with.
  have hfailed : (r.status < 400 || (mayMiss && r.status == 404)) = false := by
    have hlow : ¬ r.status < 400 := by omega
    have hmissing : r.status ≠ 404 := by omega
    simp [hlow, hmissing]
  rw [attemptFrom, run_bind, run_exchange, hreply]
  simp only [hfailed, hagain]
  rfl

variable (request endpoint mayMiss more attempt p)

/-- Requests are made until one is settled. Each takes a reply, and all is written down. -/
theorem run_attemptFrom_eq :
    (attemptFrom request endpoint mayMiss more attempt).run p =
      (judge endpoint mayMiss (settling more p.replies),
        ⟨p.replies.drop ((repeated more p.replies).length + 1),
          p.log ++ course request attempt (repeated more p.replies)⟩) := by
  induction more generalizing attempt p with
  | zero =>
    rw [run_attemptFrom_settled (.inl rfl), settling_zero, repeated_zero]
    simp [afterRequest, course]
  | succ more ih =>
    rw [settling_succ, repeated_succ]
    by_cases hagain : asksAgain (nextReply p.replies) = true
    · obtain ⟨r, hreply, hretry⟩ : ∃ r, nextReply p.replies = .response r ∧
          isRetryable r.status = true := by
        cases hreply : nextReply p.replies <;> simp_all [asksAgain]
      rw [run_attemptFrom_again hreply hretry, ih, if_pos hagain, if_pos hagain, hreply]
      simp [course, pauseAfter]
    · rw [run_attemptFrom_settled (.inr (Bool.not_eq_true _ ▸ hagain)), if_neg hagain,
        if_neg hagain]
      simp [afterRequest, course]

theorem run_attemptFrom :
    ((attemptFrom request endpoint mayMiss more attempt).run p).1 =
        judge endpoint mayMiss (settling more p.replies) ∧
      ((attemptFrom request endpoint mayMiss more attempt).run p).2.replies <:+ p.replies := by
  rw [run_attemptFrom_eq]
  exact ⟨rfl, List.drop_suffix _ _⟩

end Attempts

/-! ## The six inquiries -/

/-- What GitHub is asked. -/
inductive Inquiry where
  | exchangeCode (clientId clientSecret code : String)
  | profile
  | repositories
  | repository (owner repo : String)
  | tree (owner repo ref : String)
  | fileText (owner repo path : String) (ref : Option String)

namespace Inquiry

def Result : Inquiry → Type
  | exchangeCode _ _ _ => String
  | profile => Profile
  | repositories => List Repository
  | repository _ _ => Repository
  | tree _ _ _ => Tree
  | fileText _ _ _ _ => Option String

def run (c : Client) : (q : Inquiry) → Call q.Result
  | exchangeCode clientId clientSecret code => c.exchangeCode clientId clientSecret code
  | profile => c.profile
  | repositories => c.repositories
  | repository owner repo => c.repository owner repo
  | tree owner repo ref => c.tree owner repo ref
  | fileText owner repo path ref => c.fileText owner repo path ref

/-- Where an inquiry goes. -/
def endpoint : Inquiry → Reading String
  | exchangeCode _ _ _ => .ok tokenUrl
  | profile => .ok "/user"
  | repositories => .ok "/user/repos?sort=updated&per_page=100"
  | repository owner repo => Client.repositoryEndpoint owner repo
  | tree owner repo ref => Client.treeEndpoint owner repo ref
  | fileText owner repo path ref => Client.contentsEndpoint owner repo path ref

/-- An inquiry for a file is content with any text, and with a file that is not there. -/
def isForText : Inquiry → Bool
  | fileText _ _ _ _ => true
  | _ => false

/-- Makes the requests of an inquiry. -/
def send (c : Client) (endpoint : String) : Inquiry → Call Http.Response
  | exchangeCode clientId clientSecret code =>
    let body := Json.obj [("client_id", .str clientId), ("client_secret", .str clientSecret),
      ("code", .str code)]
    let request := { c.request tokenUrl "application/json" with
      method := "POST", body := some body }
    attemptFrom request tokenUrl false (maxAttempts - 1) 1
  | fileText _ _ _ _ => c.get endpoint rawMedia true
  | _ => c.get endpoint jsonMedia false

def readBody (r : Http.Response) : Reading Json := (Json.parseBytes r.body).mapError .unreadable

def readObjects (endpoint : String) : Json → Reading (List Fields)
  | .arr items => items.mapM fun
    | .obj fields => .ok fields
    | _ => .error (.shape .objects endpoint)
  | _ => .error (.shape .array endpoint)

def readToken (fields : Fields) : Reading String :=
  let fault := value fields "error"
  let description := value fields "error_description"
  if !(fault matches .null) then
    .error (.refused (if description.isTruthy then description else fault).display)
  else match value fields "access_token" with
    | .str token => if token.isEmpty then .error .noToken else .ok token
    | _ => .error .noToken

/-- What is read from the response. -/
def read (endpoint : String) (r : Http.Response) : (q : Inquiry) → Reading q.Result
  | exchangeCode _ _ _ => readBody r >>= requireObject tokenUrl >>= readToken
  | profile => readBody r >>= requireObject endpoint >>= Profile.read endpoint
  | repositories => readBody r >>= readObjects endpoint >>= (·.mapM (Repository.read endpoint))
  | repository _ _ => readBody r >>= requireObject endpoint >>= Repository.read endpoint
  | tree _ _ _ => readBody r >>= requireObject endpoint >>= Tree.read endpoint
  | fileText _ _ _ _ => .ok (if r.status == 404 then none else (Text.decodeUtf8 r.body).toOption)

theorem bodyOf_eq (r : Http.Response) : Client.bodyOf r = Client.liftReading (readBody r) := by
  unfold Client.bodyOf readBody
  cases Json.parseBytes r.body <;> rfl

theorem getObject_then (c : Client) (endpoint : String) (reading : Fields → Reading α) :
    (c.getObject endpoint >>= fun fields => Client.liftReading (reading fields)) =
      c.get endpoint jsonMedia false >>= fun r =>
        Client.liftReading (readBody r >>= requireObject endpoint >>= reading) := by
  simp only [Client.getObject, bodyOf_eq, liftReading_bind, bind_assoc]

theorem getObjects_then (c : Client) (endpoint : String) (reading : List Fields → Reading α) :
    (c.getObjects endpoint >>= fun rows => Client.liftReading (reading rows)) =
      c.get endpoint jsonMedia false >>= fun r =>
        Client.liftReading (readBody r >>= readObjects endpoint >>= reading) := by
  have hitems (items : List Json) : Client.liftReading (readObjects endpoint (.arr items)) =
      items.mapM fun
        | .obj fields => return fields
        | _ => throw (.shape .objects endpoint) := by
    rw [readObjects, liftReading_mapM]
    congr 1
    funext item
    cases item <;> rfl
  simp only [Client.getObjects, bodyOf_eq, liftReading_bind, bind_assoc]
  refine bind_congr fun r => bind_congr fun body => ?_
  cases body with
  | arr items => exact congrArg (· >>= _) (hitems items).symm
  | _ => rfl

theorem liftReading_readToken (fields : Fields) :
    Client.liftReading (readToken fields) = (do
      let fault := value fields "error"
      let description := value fields "error_description"
      if !(fault matches .null) then
        throw (.refused (if description.isTruthy then description else fault).display)
      match value fields "access_token" with
      | .str token => if token.isEmpty then throw .noToken else return token
      | _ => throw .noToken : Call String) := by
  unfold readToken
  dsimp only
  by_cases hfault : (!(value fields "error" matches .null)) = true
  · rw [if_pos hfault, if_pos hfault]
    rfl
  · rw [if_neg hfault, if_neg hfault]
    split
    · split_ifs <;> rfl
    · rfl

/-- An inquiry is an address, requests and a reading of the response, one after the other. -/
theorem run_eq (c : Client) (q : Inquiry) :
    q.run c = Client.liftReading q.endpoint >>= fun endpoint =>
      q.send c endpoint >>= fun r => Client.liftReading (q.read endpoint r) := by
  cases q with
  | exchangeCode clientId clientSecret code =>
    change _ = attemptFrom _ _ _ _ _ >>= fun r =>
      Client.liftReading (readBody r >>= requireObject tokenUrl >>= readToken)
    simp only [liftReading_bind, bind_assoc, liftReading_readToken, ← bodyOf_eq]
    rfl
  | profile => exact getObject_then c _ (Profile.read _)
  | repositories => exact getObjects_then c _ (·.mapM (Repository.read _))
  | repository owner repo =>
    exact bind_congr fun endpoint => getObject_then c endpoint (Repository.read endpoint)
  | tree owner repo ref =>
    exact bind_congr fun endpoint => getObject_then c endpoint (Tree.read endpoint)
  | fileText owner repo path ref =>
    refine bind_congr fun endpoint => bind_congr fun r => ?_
    cases hmissing : r.status == 404 <;> simp only [read, hmissing] <;> rfl

/-! ## Where a name is missing -/

theorem not_untold_checkSegment (text : String) : ¬ Untold (Client.checkSegment text) := by
  unfold Client.checkSegment
  dsimp only
  split_ifs <;> simp [Fault.kind?]

theorem not_untold_endpoint (q : Inquiry) : ¬ Untold q.endpoint := by
  have hrepository (owner repo : String) : ¬ Untold (Client.repositoryEndpoint owner repo) := by
    simp [Client.repositoryEndpoint, not_untold_checkSegment]
  cases q with
  | exchangeCode _ _ _ => exact untold_ok _
  | profile => exact untold_ok _
  | repositories => exact untold_ok _
  | repository owner repo => exact hrepository owner repo
  | tree owner repo ref =>
    simp only [endpoint, Client.treeEndpoint]
    split_ifs <;> simp [hrepository, Fault.kind?]
  | fileText owner repo path ref =>
    simp only [endpoint, Client.contentsEndpoint]
    split_ifs
    · simp [Fault.kind?]
    · split <;> simp [hrepository]

theorem blamesReply_readObjects (endpoint : String) (v : Json) :
    BlamesReply (readObjects endpoint v) := by
  unfold readObjects
  split
  · refine blamesReply_mapM (fun item => ?_) _
    split <;> simp [Fault.isOfReply]
  · simp [Fault.isOfReply]

theorem blamesReply_readToken (fields : Fields) : BlamesReply (readToken fields) := by
  unfold readToken
  dsimp only
  by_cases hfault : (!(value fields "error" matches .null)) = true
  · rw [if_pos hfault]
    simp [Fault.isOfReply]
  · rw [if_neg hfault]
    split
    · split_ifs <;> simp [Fault.isOfReply]
    · simp [Fault.isOfReply]

/-- Where no text is asked for a response is read as JSON first, and all that goes wrong afterwards
is put down to the reply. -/
theorem exists_read_eq (q : Inquiry) (endpoint : String) (hjson : q.isForText = false) :
    ∃ next : Json → Reading q.Result, (∀ v, BlamesReply (next v)) ∧
      ∀ r, q.read endpoint r = readBody r >>= next := by
  have hread {α β : Type} {shape : Json → Reading α} {reading : α → Reading β}
      (hshape : ∀ v, BlamesReply (shape v)) (hreading : ∀ a, BlamesReply (reading a)) :
      ∃ next : Json → Reading β, (∀ v, BlamesReply (next v)) ∧
        ∀ r, readBody r >>= shape >>= reading = readBody r >>= next :=
    ⟨fun v => shape v >>= reading, by simp [hshape, hreading], fun r => bind_assoc _ _ _⟩
  have hobject := blamesReply_requireObject
  cases q with
  | exchangeCode clientId clientSecret code => exact hread (hobject tokenUrl) blamesReply_readToken
  | profile => exact hread (hobject endpoint) (blamesReply_profile endpoint)
  | repositories =>
    exact hread (blamesReply_readObjects endpoint)
      (blamesReply_mapM (blamesReply_repository endpoint))
  | repository owner repo => exact hread (hobject endpoint) (blamesReply_repository endpoint)
  | tree owner repo ref => exact hread (hobject endpoint) (blamesReply_tree endpoint)
  | fileText owner repo path ref => cases hjson

theorem untold_readBody (r : Http.Response) :
    Untold (readBody r) ↔ (Json.parseBytes r.body).isOk = false := by
  unfold readBody
  cases Json.parseBytes r.body <;> simp [Except.mapError, Except.isOk, Except.toBool, Fault.kind?]

/-- Of what can go wrong in reading a response only one thing has no name: that it is no JSON. -/
theorem untold_read (q : Inquiry) (endpoint : String) (r : Http.Response) :
    Untold (q.read endpoint r) ↔
      q.isForText = false ∧ (Json.parseBytes r.body).isOk = false := by
  by_cases hjson : q.isForText = false
  · obtain ⟨next, hnext, hread⟩ := exists_read_eq q endpoint hjson
    simp [hread, untold_readBody, hjson, fun v => (hnext v).not_untold]
  · cases q with
    | fileText owner repo path ref => simp [read, isForText]
    | _ => exact absurd rfl hjson

/-- An address that can be sent. -/
def Sendable (endpoint : String) : Prop :=
  endpoint.length ≤ Http.maxUrlLength ∧ ∀ c ∈ endpoint.toList, Http.isControl c = false

theorem checkUrl_eq_ok_iff (endpoint : String) :
    Http.checkUrl endpoint = .ok () ↔ Sendable endpoint := by
  unfold Http.checkUrl Sendable
  split_ifs with hlong
  · simp only [false_iff, not_and]
    omega
  · have hshort : endpoint.length ≤ Http.maxUrlLength := Nat.le_of_not_lt hlong
    split
    · next c i hfound =>
      have hcontrol := List.find?_some hfound
      have hmem : c ∈ endpoint.toList := List.mem_of_getElem?
        (List.mk_mem_zipIdx_iff_getElem?.mp (List.mem_of_find?_eq_some hfound))
      simp only [reduceCtorEq, false_iff, not_and, not_forall]
      exact fun _ => ⟨c, hmem, by simpa using hcontrol⟩
    · next hnone =>
      refine iff_of_true rfl ⟨hshort, fun c hc => ?_⟩
      obtain ⟨i, hi⟩ := List.mem_iff_getElem?.mp hc
      have hfree := List.find?_eq_none.mp hnone (c, i) (List.mk_mem_zipIdx_iff_getElem?.mpr hi)
      simpa using hfree

/-- What comes of requests to an address, with the service as it was before and is after them. -/
structure Sent (endpoint : String) (mayMiss : Bool) (p : Http.Peer)
    (outcome : Reading Http.Response × Http.Peer) : Prop where
  settled : Sendable endpoint →
    outcome.1 = judge endpoint mayMiss (settling (maxAttempts - 1) p.replies)
  refused : ¬ Sendable endpoint → ∃ fault, outcome.1 = .error (.url fault)
  left : outcome.2.replies <:+ p.replies

variable (c : Client) (q : Inquiry) (p : Http.Peer)

theorem sent_attemptFrom (request : Http.Request) (mayMiss : Bool) {endpoint : String}
    (h : Sendable endpoint) :
    Sent endpoint mayMiss p
      ((attemptFrom request endpoint mayMiss (maxAttempts - 1) 1).run p) where
  settled _ := (run_attemptFrom request endpoint mayMiss (maxAttempts - 1) 1 p).1
  refused hunfit := absurd h hunfit
  left := (run_attemptFrom request endpoint mayMiss (maxAttempts - 1) 1 p).2

theorem sent_get (endpoint media : String) (mayMiss : Bool) :
    Sent endpoint mayMiss p ((c.get endpoint media mayMiss).run p) := by
  unfold Client.get Http.resolve
  cases hurl : Http.checkUrl endpoint with
  | error fault =>
    have hunfit : ¬ Sendable endpoint := by simp [← checkUrl_eq_ok_iff, hurl]
    exact ⟨fun h => absurd h hunfit, fun _ => ⟨fault, rfl⟩, List.suffix_rfl⟩
  | ok _ => exact sent_attemptFrom p _ mayMiss ((checkUrl_eq_ok_iff endpoint).mp hurl)

theorem sent_send {endpoint : String} (h : q.endpoint = .ok endpoint) :
    Sent endpoint q.isForText p ((q.send c endpoint).run p) := by
  cases q with
  | exchangeCode clientId clientSecret code =>
    -- The address of the exchange is the same for all, and it can be sent.
    obtain rfl : tokenUrl = endpoint := Except.ok.inj h
    have hfit : Sendable tokenUrl := (checkUrl_eq_ok_iff tokenUrl).mp (by decide +kernel)
    exact sent_attemptFrom p _ false hfit
  | fileText owner repo path ref => exact sent_get c p endpoint rawMedia true
  | _ => exact sent_get c p endpoint jsonMedia false

/-- An inquiry takes replies off and puts none back. -/
theorem replies_run : ((q.run c).run p).2.replies <:+ p.replies := by
  rw [run_eq, run_bind, run_liftReading]
  cases hendpoint : q.endpoint with
  | error fault => exact List.suffix_rfl
  | ok endpoint =>
    have hleft := (sent_send c q p hendpoint).left
    dsimp only
    rw [run_bind]
    rcases hsent : (q.send c endpoint).run p with ⟨_ | r, p'⟩
    · simpa [hsent] using hleft
    · simpa [hsent] using hleft

/-- A reply to the inquiry that leads to a fault without a name. -/
def NamelessReply : Http.Reply → Prop
  | .response r =>
    q.isForText = false ∧ r.status < 400 ∧ (Json.parseBytes r.body).isOk = false
  | .unreachable _ => False
  | .noTransport _ => True

/-- With these replies the inquiry ends in a fault without a name. -/
def Nameless (replies : List Http.Reply) : Prop :=
  ∃ endpoint, q.endpoint = .ok endpoint ∧
    (¬ Sendable endpoint ∨ q.NamelessReply (settling (maxAttempts - 1) replies))

/-- These are all the replies with which it does. -/
theorem untold_run : Untold ((q.run c).run p).1 ↔ q.Nameless p.replies := by
  rw [run_eq, untold_run_bind, run_liftReading]
  simp only [not_untold_endpoint, false_or, untold_run_bind, run_liftReading, untold_read]
  refine exists_congr fun endpoint => and_congr_right fun hendpoint => ?_
  have hsent := sent_send c q p hendpoint
  by_cases hfit : Sendable endpoint
  · rw [hsent.settled hfit]
    cases settling (maxAttempts - 1) p.replies with
    | unreachable message => simp [judge, NamelessReply, hfit, Fault.kind?]
    | noTransport message => simp [judge, NamelessReply, Fault.kind?]
    | response r =>
      simp only [not_untold_judge_response, judge_response_eq_ok, hfit, NamelessReply]
      cases q.isForText <;> simp
  · obtain ⟨fault, hfault⟩ := hsent.refused hfit
    simp [hfault, hfit, Fault.kind?]

end Inquiry

end ReviewDesk.GitHub
