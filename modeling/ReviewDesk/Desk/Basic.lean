import ReviewDesk.Failure
import ReviewDesk.GitHub.Client
import ReviewDesk.Model.Analysis
import ReviewDesk.Settings.Basic
import ReviewDesk.Store.Accounts
import ReviewDesk.Store.Reviews

/-!
The desk: what it keeps, the time, identifiers to give out, and the services that it asks. A task
changes the desk and gives a value or a failure; what has changed before a failure stays changed.
-/
namespace ReviewDesk

/-- `σ` is the state of the review model. -/
structure Desk (σ : Type) where
  store : Store := {}
  now : Moment
  /-- Identifiers to be given out, and how many have been. -/
  ids : Nat → Uuid
  used : Nat := 0
  github : Http.Peer := {}
  model : σ

abbrev Task (σ α : Type) := ExceptT Failure (StateM (Desk σ)) α

namespace Desk

variable {σ α : Type}

def fail (failure : Failure) : Task σ α := throw failure

def clock : Task σ Moment := return (← get).now

def freshId : Task σ Uuid := do
  let d ← get
  set { d with used := d.used + 1 }
  return d.ids d.used

/-- As many fresh identifiers as there are issues go with them. -/
def identify : List Issue → Task σ (List Finding)
  | [] => return []
  | issue :: rest => do
    let id ← freshId
    return { issue with id } :: (← identify rest)

/-- Looks something up in the store. -/
def look (query : Store → Except Store.Fault α) : Task σ α := do
  match query (← get).store with
  | .ok a => return a
  | .error fault => fail (.store fault)

/-- Changes the store. -/
def change (operation : Store → Except Store.Fault (α × Store)) : Task σ α := do
  let d ← get
  match operation d.store with
  | .ok (a, store) => set { d with store }; return a
  | .error fault => fail (.store fault)

/-- A change that cannot fail. -/
def adjust (operation : Store → α × Store) : Task σ α := change fun s => .ok (operation s)

/-- Asks GitHub. -/
def askGitHub (call : GitHub.Call α) : Task σ α := do
  let d ← get
  let (result, github) := call.run d.github
  set { d with github }
  match result with
  | .ok a => return a
  | .error fault => fail (.github fault)

/-- Asks the review model. -/
def askModel (run : Model.Run σ α) : Task σ (Except Model.Fault α) := do
  let d ← get
  let (result, model) := run.run d.model
  set { d with model }
  return result

def checked (c : Checked α) : Task σ α :=
  match c with
  | .good a => return a
  | .bad problems => fail (.invalid problems)

/-- Writes an account with the time of the change. -/
def saveAccount (a : Account) : Task σ Account := do
  change (Store.saveAccount (← clock) a)

end Desk

end ReviewDesk
