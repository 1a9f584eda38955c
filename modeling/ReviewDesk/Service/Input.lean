import ReviewDesk.Json.Bytes
import ReviewDesk.Service.Message
import ReviewDesk.Text.LetterCase
import ReviewDesk.Validation.Field

/-!
What a request brings along: the slots of its path, its query and its body.
-/
namespace ReviewDesk.Service

structure Input where
  slots : List (String × Json) := []
  query : List (String × Json) := []
  /-- A body that is not sent as JSON counts as text. -/
  body : Option Json := none

namespace Input

/-- Whether a kind of content is JSON or made of it. -/
def isJsonMedia (media : String) : Bool :=
  match (Text.lower (Text.trim ((media.splitOn ";").headD ""))).splitOn "/" with
  | ["application", kind] => kind == "json" || kind.endsWith "+json"
  | _ => false

inductive BodyFault where
  | misplaced (position : Nat)
  | unreadable
  deriving Repr, DecidableEq

def BodyFault.answer : BodyFault → Answer
  | misplaced position => .ofProblems [⟨[toString position], .notJson⟩]
  | unreadable => .detail 400 "There was an error parsing the body"

/-- The body of a request; none if it is empty. -/
def readBody (r : Request) : Except BodyFault (Option Json) :=
  if r.body.isEmpty then .ok none
  else if !(((r.header? "content-type").filter (!·.isEmpty)).all isJsonMedia) then
    .ok (some (.str (Text.decodeReplacing r.body)))
  else match Json.parseBytes r.body with
    | .ok v => .ok (some v)
    | .error (.json _ (.misplaced _ position)) => .error (.misplaced position)
    | .error _ => .error .unreadable

/-- Of several values under one name the last counts. -/
def ofPairs (pairs : List (String × String)) : List (String × Json) :=
  pairs.foldl (fun fields (name, value) => Json.insert name (.str value) fields) []

def identifier (i : Input) (slot : String) : Checked Uuid :=
  Field.required i.slots slot Field.identifier

def word (i : Input) (slot : String) : Checked String := Field.required i.slots slot Field.text

/-- The record in the body. -/
def record {α : Type} (i : Input) (read : List (String × Json) → Checked α) : Checked α :=
  match i.body with
  | none => .fail .missing
  | some (.obj fields) => read fields
  | some _ => .fail .notObject

end Input

end ReviewDesk.Service
