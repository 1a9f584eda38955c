import ReviewDesk.Desk.SignIn
import ReviewDesk.Service.Input

/-!
Routes: which requests there are, who may make them, and what they do. A route is guarded before
anything that the request brings along is looked at.
-/
namespace ReviewDesk.Service

/-- What a route does, by who may ask for it. -/
inductive Handler (σ : Type) where
  | visitor (act : Input → Checked (Task σ Answer))
  | member (act : Input → Checked (Account → Task σ Answer))
  | admin (act : Input → Checked (Task σ Answer))

structure Route (σ : Type) where
  method : String
  /-- Segments in braces are slots. -/
  path : String
  takesBody : Bool := false
  handler : Handler σ

/-- The name of a slot. -/
def slotName? (segment : String) : Option String :=
  match segment.toList with
  | '\x7b' :: rest => some (.ofList rest.dropLast)
  | _ => none

/-- What the slots of a pattern stand for in a path; a slot takes any segment that is not empty. -/
def matchSegments : (pattern path : List String) → Option (List (String × String))
  | [], [] => some []
  | p :: pattern, s :: path =>
    match slotName? p with
    | some name =>
      if s.isEmpty then none else (matchSegments pattern path).map ((name, s) :: ·)
    | none => if p == s then matchSegments pattern path else none
  | _, _ => none

/-- The pieces of a path between its slashes. -/
def segments (path : String) : List String := (path.toList.splitOn '/').map .ofList

/-- A text without a line end after it. -/
def dropLineEnd (text : String) : String :=
  if text.toList.getLast? == some '\n' then .ofList text.toList.dropLast else text

/-- The pieces of a path without a line end after the last. -/
def dropLastLineEnd : List String → List String
  | [] => []
  | [s] => [dropLineEnd s]
  | s :: rest => s :: dropLastLineEnd rest

namespace Route

variable {σ : Type}

/-- What the slots of a route stand for in a path. A line end after the path does no harm. -/
def slots? (route : Route σ) (path : String) : Option (List (String × String)) :=
  matchSegments (segments route.path) (segments path) <|>
    matchSegments (segments route.path) (dropLastLineEnd (segments path))

/-- The route with all its paths below another. -/
def below (base : String) (route : Route σ) : Route σ :=
  { route with path := base ++ route.path }

end Route

/-- Where a request leads. -/
inductive Target (σ : Type) where
  | route (r : Route σ) (slots : List (String × String))
  /-- There is such a path, but not for this method. -/
  | otherMethod (allowed : String)
  /-- There is such a path, up to a slash at the end. -/
  | moved
  | nowhere

variable {σ : Type}

/-- The same path with slashes at its end taken away, or with one put there. -/
def otherSlash (path : String) : String :=
  if path.endsWith "/" then .ofList (path.toList.reverse.dropWhile (· == '/')).reverse
  else path ++ "/"

/-- The first route for path and method counts, else the first for the path. -/
def locate (routes : List (Route σ)) (method path : String) : Target σ :=
  let fitting := routes.filterMap fun r => (r.slots? path).map (r, ·)
  match fitting.find? (·.1.method == method), fitting with
  | some (r, slots), _ => .route r slots
  | none, (r, _) :: _ => .otherMethod r.method
  | none, [] =>
    if path != "/" && routes.any fun r => (r.slots? (otherSlash path)).isSome then .moved
    else .nowhere

/-- The token of a request, after a word that says what it is. -/
def bearer? (r : Request) : Option String := do
  let text ← r.header? "authorization"
  let scheme := text.toList.takeWhile (· != ' ')
  let token := Text.trim (.ofList (text.toList.drop (scheme.length + 1)))
  if Text.lower (.ofList scheme) == "bearer" && !token.isEmpty then some token else none

/-- The account of the caller. -/
def callerOf (settings : Settings) (r : Request) : Task σ Account := do
  match bearer? r with
  | none => Desk.fail .missingToken
  | some token => Desk.authenticate settings token (r.header? "x-user-id")

/-- Checks who is asking, then what is asked, and only then acts. -/
def Handler.run (settings : Settings) (r : Request) (input : Input) : Handler σ → Task σ Answer
  | .visitor act =>
    match act input with
    | .good task => task
    | .bad problems => return .ofProblems problems
  | .member act => do
    let caller ← callerOf settings r
    match act input with
    | .good task => task caller
    | .bad problems => return .ofProblems problems
  | .admin act => do
    Desk.requireAdmin (← callerOf settings r)
    match act input with
    | .good task => task
    | .bad problems => return .ofProblems problems

end ReviewDesk.Service
