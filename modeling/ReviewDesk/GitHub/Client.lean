import ReviewDesk.Decimal.Reading
import ReviewDesk.GitHub.Record
import ReviewDesk.Http.Message

/-!
Requests to GitHub. A request that meets too much traffic or a fault of the server is made again,
up to three times in all, after the pause that the server asks for or one that doubles.
-/
namespace ReviewDesk.GitHub

/-- A run of requests. What has been asked stays on record when a fault ends it. -/
abbrev Call (α : Type) := ExceptT Fault (StateM Http.Peer) α

def host : String := "https://api.github.com"
def tokenUrl : String := "https://github.com/login/oauth/access_token"
def jsonMedia : String := "application/vnd.github+json"
def rawMedia : String := "application/vnd.github.raw"
def maxAttempts : Nat := 3

def isRetryable (status : Nat) : Bool := status == 429 || (500 ≤ status && status < 600)

/-- Half a second after the first attempt, and twice as long after each further one. -/
def backoff (attempt : Nat) : Float := 0.5 * Float.ofNat (Nat.pow 2 (attempt - 1))

/-- The pause after an attempt that got this response. -/
def retryDelay (r : Http.Response) (attempt : Nat) : Float :=
  match (r.header? "Retry-After").bind Decimal.readNumeral? with
  | some seconds => if seconds < 0 then backoff attempt else seconds
  | none => backoff attempt

/-- Makes attempt number `attempt`, and up to `more` after it. -/
def attemptFrom (request : Http.Request) (endpoint : String) (mayMiss : Bool) :
    (more attempt : Nat) → Call Http.Response
  | more, attempt => do
    match ← (Http.Peer.exchange request : StateM _ _) with
    | .unreachable message => throw (.unreachable message)
    | .noTransport message => throw (.noTransport message)
    | .response r =>
      if r.status < 400 || (mayMiss && r.status == 404) then return r
      else match more with
        | 0 => throw (.status r.status endpoint)
        | more + 1 =>
          if isRetryable r.status then
            (Http.Peer.pause (retryDelay r attempt) : StateM _ _)
            attemptFrom request endpoint mayMiss more (attempt + 1)
          else throw (.status r.status endpoint)

/-- Requests on behalf of the owner of a token, or of nobody. -/
structure Client where
  token : Option String := none
  deriving Repr, DecidableEq

namespace Client

/-- An empty token is none. -/
def ofToken (token : String) : Client := ⟨if token.isEmpty then none else some token⟩

def request (c : Client) (url media : String) : Http.Request :=
  { url, accept := some media, credential := c.token.map ("Bearer " ++ ·) }

def get (c : Client) (endpoint media : String) (mayMiss : Bool) : Call Http.Response := do
  match Http.resolve host endpoint with
  | .error fault => throw (.url fault)
  | .ok url => attemptFrom (c.request url media) endpoint mayMiss (maxAttempts - 1) 1

def bodyOf (r : Http.Response) : Call Json :=
  match Json.parseBytes r.body with
  | .ok v => return v
  | .error fault => throw (.unreadable fault)

def liftReading {α : Type} : Reading α → Call α
  | .ok a => return a
  | .error fault => throw fault

def getObject (c : Client) (endpoint : String) : Call Fields := do
  let body ← bodyOf (← c.get endpoint jsonMedia false)
  liftReading (requireObject endpoint body)

/-- The objects of an array. -/
def getObjects (c : Client) (endpoint : String) : Call (List Fields) := do
  let .arr items ← bodyOf (← c.get endpoint jsonMedia false) | throw (.shape .array endpoint)
  items.mapM fun
    | .obj fields => return fields
    | _ => throw (.shape .objects endpoint)

/-- The name of an owner or of a repository, as it stands in an address. -/
def checkSegment (value : String) : Reading String :=
  let name := Text.trim value
  if name.isEmpty || name.toList.contains '/' then .error (.input (.segment value)) else .ok name

def repositoryEndpoint (owner repo : String) : Reading String := do
  let owner ← checkSegment owner
  let repo ← checkSegment repo
  return s!"/repos/{owner}/{repo}"

def treeEndpoint (owner repo ref : String) : Reading String := do
  if ref.isEmpty then .error (.input .emptyRef)
  else
    let repository ← repositoryEndpoint owner repo
    return s!"{repository}/git/trees/{Http.encodeSegment ref}?recursive=1"

def contentsEndpoint (owner repo path : String) (ref : Option String) : Reading String := do
  let path := String.ofList (path.toList.dropWhile (· == '/'))
  if path.isEmpty then .error (.input .emptyPath)
  else
    let repository ← repositoryEndpoint owner repo
    let endpoint := s!"{repository}/contents/{Http.encodePath path}"
    match ref.filter (!·.isEmpty) with
    | some ref => return s!"{endpoint}?ref={Http.encodeSegment ref}"
    | none => return endpoint

/-- The token for a code that a sign-in gave. A code that is refused comes back with an error in a
reply that is otherwise fine. -/
def exchangeCode (c : Client) (clientId clientSecret code : String) : Call String := do
  let body := Json.obj [("client_id", .str clientId), ("client_secret", .str clientSecret),
    ("code", .str code)]
  let request := { c.request tokenUrl "application/json" with method := "POST", body := some body }
  let r ← attemptFrom request tokenUrl false (maxAttempts - 1) 1
  let fields ← liftReading (requireObject tokenUrl (← bodyOf r))
  let fault := value fields "error"
  let description := value fields "error_description"
  if !(fault matches .null) then
    throw (.refused (if description.isTruthy then description else fault).display)
  match value fields "access_token" with
  | .str token => if token.isEmpty then throw .noToken else return token
  | _ => throw .noToken

def profile (c : Client) : Call Profile := do
  let endpoint := "/user"
  liftReading (Profile.read endpoint (← c.getObject endpoint))

/-- The repositories of the owner of the token, those updated last in front. -/
def repositories (c : Client) : Call (List Repository) := do
  let endpoint := "/user/repos?sort=updated&per_page=100"
  let rows ← c.getObjects endpoint
  liftReading (rows.mapM (Repository.read endpoint))

def repository (c : Client) (owner repo : String) : Call Repository := do
  let endpoint ← liftReading (repositoryEndpoint owner repo)
  liftReading (Repository.read endpoint (← c.getObject endpoint))

def tree (c : Client) (owner repo ref : String) : Call Tree := do
  let endpoint ← liftReading (treeEndpoint owner repo ref)
  liftReading (Tree.read endpoint (← c.getObject endpoint))

/-- The text of a file; none if there is no such file or it is no text. -/
def fileText (c : Client) (owner repo path : String) (ref : Option String) :
    Call (Option String) := do
  let endpoint ← liftReading (contentsEndpoint owner repo path ref)
  let r ← c.get endpoint rawMedia true
  if r.status == 404 then return none else return (Text.decodeUtf8 r.body).toOption

end Client

/-- Owner and repository of a name such as `owner/repo`. -/
def splitFullName (name : String) : Except InputFault (String × String) :=
  match (Text.trim name).toList.splitOn '/' with
  | [owner, repo] =>
    if owner.isEmpty || repo.isEmpty then .error (.fullName name)
    else .ok (.ofList owner, .ofList repo)
  | _ => .error (.fullName name)

end ReviewDesk.GitHub
