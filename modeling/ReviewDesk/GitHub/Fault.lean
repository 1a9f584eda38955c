import ReviewDesk.Http.Url
import ReviewDesk.Json.Bytes

/-!
What can go wrong between the desk and GitHub.
-/
namespace ReviewDesk.GitHub

/-- What a reply, or a field of it, should have been. -/
inductive Expectation where
  | object (place : String)
  | array
  | objects
  | text (key : String)
  | textOrNull (key : String)
  | boolean (key : String)
  | integer (key : String)
  | arrayField (key : String)
  deriving Repr, DecidableEq

def Expectation.message : Expectation → String
  | object place => s!"Expected JSON object for {place}."
  | array => "Expected JSON array in GitHub response."
  | objects => "Expected all array items to be JSON objects in GitHub response."
  | text key => s!"Expected string field '{key}' in GitHub response."
  | textOrNull key => s!"Expected '{key}' to be a string or null in GitHub response."
  | boolean key => s!"Expected boolean field '{key}' in GitHub response."
  | integer key => s!"Expected integer field '{key}' in GitHub response."
  | arrayField key => s!"Expected array field '{key}' in GitHub response."

/-- A request that cannot be made for what is in it. -/
inductive InputFault where
  | segment (value : String)
  | fullName (value : String)
  | emptyPath
  | emptyRef
  deriving Repr, DecidableEq

def InputFault.message : InputFault → String
  | segment value => s!"Invalid repository segment '{value}'."
  | fullName value => s!"Invalid repo '{value}'. Expected format is owner/repo."
  | emptyPath => "Invalid file path ''. Expected a non-empty repository path."
  | emptyRef => "Invalid ref ''. Expected a non-empty git ref."

inductive Fault where
  | input (fault : InputFault)
  /-- The exchange of a sign-in code was refused. -/
  | refused (description : String)
  /-- The exchange of a sign-in code gave no token. -/
  | noToken
  /-- A status that tells of a failure. -/
  | status (code : Nat) (endpoint : String)
  /-- A reply of another shape than it should have. -/
  | shape (expected : Expectation) (endpoint : String)
  /-- A reply that is no JSON. -/
  | unreadable (fault : Json.BytesFault)
  | url (fault : Http.UrlFault)
  | unreachable (message : String)
  | noTransport (message : String)
  deriving Repr, DecidableEq

namespace Fault

def message : Fault → String
  | input fault => fault.message
  | refused description => s!"GitHub OAuth exchange failed: {description}"
  | noToken => "GitHub OAuth exchange returned no access token."
  | status code endpoint => s!"GitHub API request failed with status {code} for '{endpoint}'."
  | shape expected _ => expected.message
  | unreadable fault => fault.message
  | url fault => fault.message
  | unreachable message => message
  | noTransport message => message

/-- The name of the kind of fault that callers are shown; none for faults that they are not told
of. -/
def kind? : Fault → Option String
  | input _ => some "GitHubInputError"
  | refused _ | noToken => some "GitHubOAuthError"
  | status code _ => some (if code == 429 then "GitHubRateLimitError" else "GitHubApiError")
  | shape _ _ => some "GitHubApiError"
  | unreachable _ => some "ConnectError"
  | unreadable _ | url _ | noTransport _ => none

/-- The status and the endpoint of a failed request. -/
def failedRequest? : Fault → Option (Nat × String)
  | status code endpoint => some (code, endpoint)
  | shape _ endpoint => some (500, endpoint)
  | _ => none

end Fault

end ReviewDesk.GitHub
