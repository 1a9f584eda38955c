import ReviewDesk.Failure
import ReviewDesk.Http.Message
import ReviewDesk.Validation.Basic

/-!
Requests to the desk and its answers.
-/
namespace ReviewDesk.Service

structure Request where
  method : String := "GET"
  /-- Not in percent form any more. -/
  path : String
  query : List (String × String) := []
  headers : List (String × String) := []
  body : List UInt8 := []
  deriving Repr, DecidableEq

def Request.header? (r : Request) (name : String) : Option String :=
  (r.headers.find? (Http.sameName ·.1 name)).map (·.2)

inductive Content where
  | empty
  | json (value : Json)
  | text (media : String) (text : String)

/-- The kind of content, as a header says it. -/
def Content.media? : Content → Option String
  | empty => none
  | json _ => some "application/json"
  | text media _ => some (media ++ "; charset=utf-8")

structure Answer where
  status : Nat := 200
  content : Content := .empty
  headers : List (String × String) := []

namespace Answer

def ofJson (value : Json) (status : Nat := 200) : Answer := { status, content := .json value }

def ofText (text : String) (status : Nat := 200) : Answer :=
  { status, content := .text "text/plain" text }

/-- Done, and nothing to say. -/
def done : Answer := { status := 204 }

/-- What is said of a request that is not understood. -/
def detail (status : Nat) (text : String) : Answer :=
  ofJson (.obj [("detail", .str text)]) status

def error (status : Nat) (kind message : String) : Answer :=
  ofJson (.obj [("error", .str kind), ("message", .str message)]) status

def problemText (p : Problem) : String :=
  (if p.path.isEmpty then "body" else ".".intercalate p.path) ++ ": " ++ p.cause.message

/-- All that is wrong with a request. -/
def ofProblems (problems : List Problem) : Answer :=
  error 400 "RequestValidationError"
    ("Validation failed: " ++ "; ".intercalate (problems.map problemText))

/-- The status of an answer that a fault between the desk and GitHub leads to. -/
def gitHubStatus : GitHub.Fault → Nat
  | .status 404 _ => 404
  | .input _ | .refused _ | .noToken => 400
  | _ => 502

def ofGitHubFault? (fault : GitHub.Fault) : Option Answer :=
  fault.kind?.map fun kind =>
    error (gitHubStatus fault) kind <| match fault with
      | .unreachable message => s!"Could not reach GitHub: {message}"
      | _ => fault.message

/-- The answer to a request that fails, if the caller is told of the failure. -/
def ofFailure? (failure : Failure) : Option Answer :=
  match failure.verdict?, failure with
  | some (kind, status), _ => some (error status kind failure.message)
  | none, .github fault => ofGitHubFault? fault
  | none, _ => none

/-- The answer when something went wrong that is nobody else's business. -/
def crash : Answer := ofText "Internal Server Error" 500

def isSuccess (a : Answer) : Bool := 200 ≤ a.status && a.status < 300

end Answer

end ReviewDesk.Service
