import ReviewDesk.Model.Remote
import ReviewDesk.Service.Origin
import ReviewDesk.Service.Table

/-!
The desk as a service: one request, one answer.
-/
namespace ReviewDesk.Service

def title : String := "DevMentor Code Review API"

def version : String := "0.1.0"

/-- Why the service cannot start. -/
inductive StartFault where
  | settings (fault : Settings.Fault)
  /-- The path of the service does not begin with a slash. -/
  | unrooted
  /-- The path of the service ends with a slash. -/
  | openEnded
  deriving Repr, DecidableEq

def StartFault.message : StartFault → String
  | settings fault => fault.message
  | unrooted => "A path prefix must start with '/'"
  | openEnded =>
    "A path prefix must not end with '/', as the routes will start with '/'"

/-- The model that the settings name. -/
def remoteModel? (settings : Settings) : Option Model.Remote :=
  (settings.modelKey.filter (!·.isEmpty)).map fun key => {
    name := settings.modelName
    key
    maxTokens := settings.modelTokens
    temperature := .real settings.modelTemperature }

/-- The settings of a service and its model, if it can start. -/
def start (environment : Environment) : Except StartFault (Settings × Model.Remote) := do
  let settings ← (Settings.load environment []).mapError .settings
  match remoteModel? settings with
  | none => .error (.settings .missingModelKey)
  | some model =>
    if settings.apiPath.isEmpty then return (settings, model)
    else if !settings.apiPath.startsWith "/" then .error .unrooted
    else if settings.apiPath.endsWith "/" then .error .openEnded
    else return (settings, model)

variable {σ : Type}

/-- Acts on a request for a route; none if it fails in a way that callers are not told of. -/
def act (settings : Settings) (r : Request) (route : Route σ) (slots : List (String × String)) :
    StateM (Desk σ) (Option Answer) := do
  match if route.takesBody then Input.readBody r else .ok none with
  | .error fault => return some fault.answer
  | .ok body =>
    let input := { slots := Input.ofPairs slots, query := Input.ofPairs r.query, body }
    match ← (route.handler.run settings r input).run with
    | .ok answer => return some answer
    | .error failure => return Answer.ofFailure? failure

/-- Answers a request for a path. -/
def reply (m : Model σ) (settings : Settings) (r : Request) : StateM (Desk σ) (Option Answer) :=
  match locate (routes m settings) r.method r.path with
  | .route route slots => act settings r route slots
  | .otherMethod allowed =>
    return some { Answer.detail 405 "Method Not Allowed" with headers := [("allow", allowed)] }
  | .moved => return some { status := 307 }
  | .nowhere => return some (.detail 404 "Not Found")

/-- Answers a request, also those about what a page of another origin may do. -/
def serve (m : Model σ) (settings : Settings) (r : Request) : StateM (Desk σ) Answer := do
  match r.method, r.header? "origin", r.header? "access-control-request-method" with
  | "OPTIONS", some origin, some method => return preflight settings origin method
  | _, _, _ =>
    match ← reply m settings r with
    | some answer => return markOrigin settings r answer
    | none => return .crash

/-- What can be asked, one line for each route, in order. -/
def routeLines (m : Model σ) (settings : Settings) : List String :=
  ((routes m settings).map fun r => r.method ++ " " ++ r.path).mergeSort (· ≤ ·)

end ReviewDesk.Service
