import ReviewDesk.Grammar.Lexeme
import ReviewDesk.Grammar.Tree

/-!
Reading phrases off a list of tokens: a reader either refuses or gives a result and the tokens
that follow. Where a reader refuses, another may be tried in its place; a reader that uses up its
stack ends the reading.
-/
namespace ReviewDesk.Grammar

/-- The stack of the reader is used up. -/
inductive Overflow where
  | overflow
  deriving Repr, DecidableEq

/-- A result, a refusal, or an overflow. -/
abbrev Attempt := OptionT (Except Overflow)

abbrev Phrase := StateT (List Token) Attempt

namespace Phrase

/-- Gives up for good. -/
def overflow {α : Type} : Phrase α := fun _ => OptionT.mk (.error .overflow)

def peek? : Phrase (Option Lexeme) :=
  return (← get).head?.map (·.lexeme)

/-- The line of the next token. -/
def line : Phrase Nat :=
  return (← get).head?.elim 0 (·.line)

/-- Takes the next token if it is the given lexeme. -/
def accept (l : Lexeme) : Phrase Bool := do
  match ← get with
  | t :: ts => if t.lexeme = l then set ts; return true else return false
  | [] => return false

def expect (l : Lexeme) : Phrase Unit := do
  unless ← accept l do failure

def mark (text : String) : Phrase Unit := expect (.mark text)

def mark? (text : String) : Phrase Bool := accept (.mark text)

def keyword (text : String) : Phrase Unit := expect (.keyword text)

def keyword? (text : String) : Phrase Bool := accept (.keyword text)

def atMark (text : String) : Phrase Bool := return (← peek?) = some (.mark text)

def atKeyword (text : String) : Phrase Bool := return (← peek?) = some (.keyword text)

def name : Phrase String := do
  match ← get with
  | ⟨.name text, _⟩ :: ts => set ts; return text
  | _ => failure

/-- The phrase if it is there. -/
def option {α : Type} (p : Phrase α) : Phrase (Option α) := fun tokens => OptionT.mk do
  match ← (p tokens).run with
  | none => return some (none, tokens)
  | some (a, rest) => return some (some a, rest)

/-- Phrases one after the other, but no more than there are tokens in `bound`. -/
def manyWithin {α : Type} (p : Phrase α) : (bound : List Token) → Phrase (List α)
  | [] => return []
  | _ :: bound => do
    match ← option p with
    | none => return []
    | some a => return a :: (← manyWithin p bound)

/-- As many phrases as there are, one after the other. -/
def many {α : Type} (p : Phrase α) : Phrase (List α) := fun tokens => manyWithin p tokens tokens

/-- One phrase or more. -/
def many1 {α : Type} (p : Phrase α) : Phrase (List α) := do
  return (← p) :: (← many p)

/-- One phrase or more with commas between them; the comma after the last is left in place. -/
def sepByComma {α : Type} (p : Phrase α) : Phrase (List α) := do
  return (← p) :: (← many do mark ","; p)

/-- Like `sepByComma`, with a comma allowed after the last. The flag says whether any comma was
read. -/
def commaList {α : Type} (p : Phrase α) : Phrase (List α × Bool) := do
  let all ← sepByComma p
  let trailing ← mark? ","
  return (all, trailing || all.length != 1)

/-- Succeeds if the phrase follows, without taking it. -/
def ahead {α : Type} (p : Phrase α) : Phrase Unit := fun tokens => do
  let _ ← p tokens
  return ((), tokens)

end Phrase

end ReviewDesk.Grammar
