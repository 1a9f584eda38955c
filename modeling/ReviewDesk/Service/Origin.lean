import ReviewDesk.Service.Message
import ReviewDesk.Settings.Basic

/-!
Requests that a page of another origin makes. The settings name the origins that may; a star stands
for all of them.
-/
namespace ReviewDesk.Service

def allOrigins (settings : Settings) : Bool := settings.origins.contains "*"

def allowsOrigin (settings : Settings) (origin : String) : Bool :=
  allOrigins settings || settings.origins.contains origin

def Answer.allowing (origin : String) (a : Answer) : Answer :=
  { a with headers := a.headers ++ [("access-control-allow-origin", origin)] }

def knownMethods : List String := ["DELETE", "GET", "HEAD", "OPTIONS", "PATCH", "POST", "PUT"]

/-- The answer to the question whether a request from an origin would be allowed. -/
def preflight (settings : Settings) (origin method : String) : Answer :=
  let allowed := allowsOrigin settings origin
  let refused := (if allowed then [] else ["origin"]) ++
    (if knownMethods.contains method then [] else ["method"])
  let answer := if refused.isEmpty then Answer.ofText "OK"
    else .ofText ("Disallowed CORS " ++ ", ".intercalate refused) 400
  if allowed then answer.allowing origin else answer

/-- Marks an answer as one that a page of the origin of the request may read. -/
def markOrigin (settings : Settings) (r : Request) (a : Answer) : Answer :=
  match r.header? "origin" with
  | none => a
  | some origin =>
    if allOrigins settings then
      a.allowing (if (r.header? "cookie").isSome then origin else "*")
    else if allowsOrigin settings origin then a.allowing origin
    else a

end ReviewDesk.Service
