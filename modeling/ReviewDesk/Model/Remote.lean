import ReviewDesk.Http.Message
import ReviewDesk.Model.Basic

/-!
The review model behind its web interface. A request that meets too much traffic, a conflict, a
fault of the server or a broken connection is made again a few times.
-/
namespace ReviewDesk.Model

structure Remote where
  name : String
  key : String
  maxTokens : Int := 8192
  /-- The number that is sent, as it is written. -/
  temperature : Json := .real 0.3
  /-- How often a request is made again. -/
  retries : Nat := 2

namespace Remote

def url : String := "https://api.anthropic.com/v1/messages"

/-- What is sent. Empty instructions are none. -/
def body (r : Remote) (prompt : String) (instructions : Option String) : Json :=
  let message := Json.obj [("role", .str "user"), ("content", .str prompt)]
  .obj ([("model", .str r.name), ("max_tokens", .int r.maxTokens), ("temperature", r.temperature),
    ("messages", .arr [message])] ++
    ((instructions.filter (!·.isEmpty)).map fun text => ("system", Json.str text)).toList)

def request (r : Remote) (prompt : String) (instructions : Option String) : Http.Request :=
  { method := "POST", url, credential := some r.key, body := some (r.body prompt instructions) }

/-- Whether to ask again: the server says so, or the status does. -/
def isRetryable (r : Http.Response) : Bool :=
  match r.header? "x-should-retry" with
  | some "true" => true
  | some "false" => false
  | _ => r.status == 408 || r.status == 409 || r.status == 429 || 500 ≤ r.status

def isSuccess (status : Nat) : Bool := 200 ≤ status && status < 300

/-- What an attempt has given, and whether another one may do better. -/
def judge : Http.Reply → Except Fault Http.Response × Bool
  | .response r =>
    if isSuccess r.status then (.ok r, false)
    else
      (.error (.refused s!"Model request failed with status {r.status}." (some r.status)),
        isRetryable r)
  | .unreachable _ | .noTransport _ =>
    (.error (.refused "Model request failed: Connection error." none), true)

/-- Asks, and up to `more` times again. -/
def attempt (request : Http.Request) :
    (more : Nat) → StateM Http.Peer (Except Fault Http.Response)
  | 0 => return (judge (← Http.Peer.exchange request)).1
  | more + 1 => do
    match judge (← Http.Peer.exchange request) with
    | (_, true) => attempt request more
    | (result, false) => return result

/-- The name of the kind of a value that is no object. -/
def kindName : Json → String
  | .null => "NoneType"
  | .bool _ => "bool"
  | .int _ => "int"
  | .real _ => "float"
  | .str _ => "str"
  | .arr _ => "list"
  | .obj _ => "dict"

/-- The value in the body of a response. A body that is not said to be JSON may be plain text. -/
def valueOf (r : Http.Response) : Except Fault Json :=
  let media := ((r.header? "content-type").getD "*").splitOn ";"
  match Json.parseBytes r.body with
  | .ok v => .ok v
  | .error fault =>
    if (media.headD "").endsWith "json" then .error (.flawed (.notJson fault))
    else .ok (.str "")

/-- The text of a block of text. -/
def blockText? (block : Json) : Option String :=
  match block.get? "type", block.get? "text" with
  | some (.str "text"), some (.str text) => some text
  | _, _ => none

def countOf (usage : Json) (key : String) : Except Fault Int :=
  match usage.get? key with
  | some (.int n) => .ok n
  | _ => .error (.flawed .noUsage)

/-- The completion that a message holds. A message without a model's name is from this one. -/
def completionOf (name : String) : Json → Except Fault Completion
  | .obj fields => do
    let some (.arr blocks) := Json.lookup? fields "content" | .error (.flawed .noContent)
    let text := String.join (blocks.filterMap blockText?)
    if text.isEmpty then .error (.refused "Model response contained no text blocks." none)
    else
      let usage := (Json.lookup? fields "usage").getD .null
      let model := match Json.lookup? fields "model" with
        | some (.str model) => if model.isEmpty then name else model
        | _ => name
      return ⟨text, ← countOf usage "input_tokens", ← countOf usage "output_tokens", model⟩
  | v => .error (.flawed (.notObject (kindName v)))

def complete (r : Remote) (prompt : String) (instructions : Option String) :
    StateM Http.Peer (Except Fault Completion) := do
  match ← attempt (r.request prompt instructions) r.retries with
  | .ok response => return (valueOf response).bind (completionOf r.name)
  | .error fault => return .error fault

def model (r : Remote) : Model Http.Peer := ⟨r.name, r.complete⟩

end Remote

end ReviewDesk.Model
