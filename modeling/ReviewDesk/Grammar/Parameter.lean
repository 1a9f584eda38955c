import ReviewDesk.Grammar.Phrase

/-!
Parameter lists of definitions and lambdas.
-/
namespace ReviewDesk.Grammar

/-- An entry of a parameter list. -/
inductive Parameter where
  | named (name : String) (optional : Bool)
  /-- The mark after the parameters that are given by position only. -/
  | slash
  /-- The mark after which parameters are given by name only; with a name it collects the
  positional arguments. -/
  | star (collects : Bool)
  | doubleStar
  deriving Repr, DecidableEq

namespace Parameter

/-- After a star come named parameters, and at last perhaps a double star. -/
def orderlyAfterStar : List Parameter → Bool
  | [] => true
  | named _ _ :: ps => orderlyAfterStar ps
  | [doubleStar] => true
  | _ => false

/-- Whether entries may follow each other like this. `slashAllowed` says that a slash may still
come, `optionals` that an optional parameter has been seen. -/
def orderlyFrom (slashAllowed optionals : Bool) : List Parameter → Bool
  | [] => true
  | named _ optional :: ps =>
    (optional || !optionals) && orderlyFrom slashAllowed (optionals || optional) ps
  | slash :: ps => slashAllowed && orderlyFrom false optionals ps
  | star true :: ps => orderlyAfterStar ps
  | star false :: named n o :: ps => orderlyAfterStar (named n o :: ps)
  | [doubleStar] => true
  | _ => false

def orderly (ps : List Parameter) : Bool :=
  orderlyFrom true false ps && ps.head? != some slash

def names (ps : List Parameter) : List String :=
  ps.filterMap fun
    | named n _ => some n
    | _ => none

open Phrase

/-- An entry with the expressions in it. Only definitions allow annotations. -/
def entry (expression starred : Phrase Tree) (annotations : Bool) :
    Phrase (Parameter × List Tree) := do
  if ← mark? "/" then return (slash, [])
  if ← mark? "**" then
    let _ ← Phrase.name
    return (doubleStar, ← annotation expression)
  if ← mark? "*" then
    match ← option Phrase.name with
    | none => return (star false, [])
    | some _ => return (star true, ← annotation starred)
  let n ← Phrase.name
  let note ← annotation expression
  if ← mark? "=" then return (named n true, note ++ [← expression])
  return (named n false, note)
where
  annotation (p : Phrase Tree) : Phrase (List Tree) := do
    if annotations then
      if ← mark? ":" then return [← p]
    return []

/-- A parameter list up to, and without, the mark that closes it. -/
def parseList (expression starred : Phrase Tree) (annotations : Bool) (close : String) :
    Phrase (List Parameter × List Tree) := do
  if ← atMark close then return ([], [])
  let (entries, _) ← commaList (entry expression starred annotations)
  let ps := entries.map (·.1)
  unless orderly ps do failure
  unless ← atMark close do failure
  return (ps, entries.flatMap (·.2))

end Parameter

end ReviewDesk.Grammar
