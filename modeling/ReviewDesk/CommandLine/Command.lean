import ReviewDesk.CommandLine.Arguments
import ReviewDesk.Decimal.Reading
import ReviewDesk.GitHub.Client
import ReviewDesk.Settings.Basic
import ReviewDesk.Workspace

/-!
Commands, read from the arguments of the program.
-/
namespace ReviewDesk.CommandLine

/-- How the service is to be reached. -/
structure Server where
  host : String := "127.0.0.1"
  port : Int := 8080
  /-- Starts again when its sources change. -/
  reload : Bool := false
  deriving Repr, DecidableEq

inductive ReportKind where
  | markdown
  | json
  deriving Repr, DecidableEq

namespace ReportKind

def name : ReportKind → String
  | markdown => "md"
  | json => "json"

def ofName? (name : String) : Option ReportKind :=
  [markdown, json].find? (·.name == name)

end ReportKind

structure ReviewOptions where
  paths : List String
  title : String
  model : String
  kind : ReportKind
  output : Option String
  verbose : Bool
  deriving Repr, DecidableEq

inductive Command where
  | serve (server : Server)
  /-- Without a password it is asked for. -/
  | createAdmin (username email : String) (password : Option String)
  | review (options : ReviewOptions)
  /-- Perhaps with a repository that should be within reach. -/
  | authCheck (repository : Option (String × String))
  deriving Repr, DecidableEq

namespace Command

/-- Both names of a switch. -/
def switchSlots (key : String) : List (String × Slot) :=
  [("--" ++ key, .switch key true), ("--no-" ++ key, .switch key false)]

def valueSlots (keys : List String) : List (String × Slot) :=
  keys.map fun key => ("--" ++ key, .value key)

def slots : String → List (String × Slot)
  | "serve" => valueSlots ["host", "port"] ++ switchSlots "reload"
  | "create-admin" => valueSlots ["username", "email", "password"]
  | "review" =>
    valueSlots ["title", "model", "output-format", "output"] ++ switchSlots "verbose"
  | _ => valueSlots ["repo", "timeout-seconds"] ++ switchSlots "trust-env"

/-- A whole number, or one for when nothing is said; none if it cannot be read. -/
def integer? (a : Arguments) (key : String) (fallback : Int) : Option Int :=
  match a.value? key with
  | some text => Decimal.readInteger? text
  | none => some fallback

def readServe (a : Arguments) : Option Command := do
  let port ← integer? a "port" 8080
  return .serve ⟨(a.value? "host").getD "127.0.0.1", port, a.switch "reload"⟩

def readCreateAdmin (a : Arguments) : Option Command := do
  return .createAdmin (← a.value? "username") (← a.value? "email") (a.value? "password")

/-- Every path to be reviewed has to be there. -/
def readReview (w : Workspace) (a : Arguments) : Option Command := do
  let kind ← ReportKind.ofName? ((a.value? "output-format").getD "md")
  if a.rest.isEmpty || !a.rest.all w.has then none
  else return .review {
    paths := a.rest
    title := (a.value? "title").getD "Local review"
    model := (a.value? "model").getD Settings.defaultModel
    kind
    output := a.value? "output"
    verbose := a.switch "verbose" }

def readAuthCheck (a : Arguments) : Option Command := do
  let _ ← integer? a "timeout-seconds" 20
  match a.value? "repo" with
  | none => return .authCheck none
  | some name => return .authCheck (some (← (GitHub.splitFullName name).toOption))

/-- The command that the arguments name; none if they are not understood. -/
def read (w : Workspace) : List String → Option Command
  | [] => none
  | name :: args => do
    let a ← Arguments.parse (slots name) args {}
    match name with
    | "review" => readReview w a
    | "serve" => if a.rest.isEmpty then readServe a else none
    | "create-admin" => if a.rest.isEmpty then readCreateAdmin a else none
    | "auth-check" => if a.rest.isEmpty then readAuthCheck a else none
    | _ => none

end Command

end ReviewDesk.CommandLine
