import ReviewDesk.Json.Basic

/-!
Messages between the desk and the services that it asks, and a service that plays its answers from a
list. All that is asked of it is written down, and so are the pauses between two attempts, in the
order in which they happen.
-/
namespace ReviewDesk.Http

structure Response where
  status : Nat
  headers : List (String × String) := []
  body : List UInt8 := []
  deriving Repr, DecidableEq

/-- Names of headers are compared without regard to the case of letters. -/
def sameName (a b : String) : Bool :=
  a.toList.map Char.toLower == b.toList.map Char.toLower

/-- The value of a header; of several the values are joined. -/
def Response.header? (r : Response) (name : String) : Option String :=
  match r.headers.filter (sameName ·.1 name) with
  | [] => none
  | found => some (", ".intercalate (found.map (·.2)))

structure Request where
  method : String := "GET"
  url : String
  accept : Option String := none
  /-- What proves the right to ask. -/
  credential : Option String := none
  body : Option Json := none

/-- What becomes of a request. -/
inductive Reply where
  | response (r : Response)
  | unreachable (message : String)
  /-- There is no way to send a request at all. -/
  | noTransport (message : String)
  deriving Repr, DecidableEq

/-- What happens while a service is asked. -/
inductive Event where
  | request (r : Request)
  | pause (seconds : Float)

def Event.request? : Event → Option Request
  | request r => some r
  | pause _ => none

def Event.pause? : Event → Option Float
  | request _ => none
  | pause seconds => some seconds

/-- A service that answers from a list. -/
structure Peer where
  replies : List Reply := []
  log : List Event := []

namespace Peer

def requests (p : Peer) : List Request := p.log.filterMap Event.request?

def pauses (p : Peer) : List Float := p.log.filterMap Event.pause?

/-- Sends one request. When the list is used up the service is out of reach. -/
def exchange (request : Request) : StateM Peer Reply := fun p =>
  (p.replies.headD (.unreachable "no response scripted"),
    { p with replies := p.replies.tail, log := p.log ++ [.request request] })

/-- Waits for some seconds. -/
def pause (seconds : Float) : StateM Peer Unit := fun p =>
  ((), { p with log := p.log ++ [.pause seconds] })

end Peer

end ReviewDesk.Http
