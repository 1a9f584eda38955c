/-!
Arguments of a command: options by name, with a value or as a switch, and all else in order.
-/
namespace ReviewDesk.CommandLine

/-- What the name of an option stands for. -/
inductive Slot where
  | value (key : String)
  | switch (key : String) (on : Bool)
  deriving Repr, DecidableEq

structure Arguments where
  values : List (String × String) := []
  switches : List (String × Bool) := []
  rest : List String := []
  deriving Repr, DecidableEq

namespace Arguments

/-- The last value counts. -/
def value? (a : Arguments) (key : String) : Option String := a.values.reverse.lookup key

def switch (a : Arguments) (key : String) : Bool := (a.switches.reverse.lookup key).getD false

/-- A name and perhaps a value after an equals sign. -/
def cutValue (arg : String) : String × Option String :=
  match (arg.toList.dropWhile (· != '=')) with
  | _ :: value => (.ofList (arg.toList.takeWhile (· != '=')), some (.ofList value))
  | [] => (arg, none)

/-- Reads arguments; none if an option is unknown or not used as it should be. Nothing is an option
after two dashes. -/
def parse (slots : List (String × Slot)) : (args : List String) → Arguments → Option Arguments
  | [], a => some a
  | arg :: more, a =>
    if arg == "--" then some { a with rest := a.rest ++ more }
    else if !arg.startsWith "-" || arg == "-" then
      parse slots more { a with rest := a.rest ++ [arg] }
    else match cutValue arg with
      | (name, some value) =>
        match slots.lookup name with
        | some (.value key) => parse slots more { a with values := a.values ++ [(key, value)] }
        | _ => none
      | (name, none) =>
        match slots.lookup name, more with
        | some (.value key), value :: more =>
          parse slots more { a with values := a.values ++ [(key, value)] }
        | some (.switch key on), more =>
          parse slots more { a with switches := a.switches ++ [(key, on)] }
        | _, _ => none

end Arguments

end ReviewDesk.CommandLine
