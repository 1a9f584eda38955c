import ReviewDesk.Json.Basic

/-!
Problems found when a value is checked against what a field or a record asks for. Checks of several
fields report all their problems, in the order of the fields.
-/
namespace ReviewDesk

/-- What is wrong with a value. -/
inductive Cause where
  | missing
  | notText
  | textTooShort (least : Nat)
  | textTooLong (most : Nat)
  | patternMismatch (pattern : String)
  | notInteger
  | integerUnreadable
  | integerTooLong
  | integerHasFraction
  | notFinite
  | notNumber
  | numberUnreadable
  | tooSmall (least : Int)
  | tooLarge (most : Int)
  | notAbove (bound : Int)
  | notBoolean
  | booleanUnreadable
  | notOneOf (names : List String)
  | notList
  | listTooShort (least found : Nat)
  | listTooLong (most found : Nat)
  | notDictionary
  | notRecord (name : String)
  | notObject
  | notJson
  | notIdentifier
  | identifierUnreadable (detail : String)
  | notMoment
  | momentUnreadable (detail : String)
  | momentOutOfReach (detail : String)
  | noSuchField (name : String)
  | unexpected
  | refused (reason : String)
  deriving Repr, DecidableEq

namespace Cause

/-- The names in quotes, the last two joined by `or`. -/
def alternatives : List String → String
  | [] => ""
  | [a] => s!"'{a}'"
  | [a, b] => s!"'{a}' or '{b}'"
  | a :: rest => s!"'{a}', " ++ alternatives rest

def plural (n : Nat) (noun : String) : String :=
  if n == 1 then s!"{n} {noun}" else s!"{n} {noun}s"

/-- The short name of the kind of problem. -/
def code : Cause → String
  | missing => "missing"
  | notText => "string_type"
  | textTooShort _ => "string_too_short"
  | textTooLong _ => "string_too_long"
  | patternMismatch _ => "string_pattern_mismatch"
  | notInteger => "int_type"
  | integerUnreadable => "int_parsing"
  | integerTooLong => "int_parsing_size"
  | integerHasFraction => "int_from_float"
  | notFinite => "finite_number"
  | notNumber => "float_type"
  | numberUnreadable => "float_parsing"
  | tooSmall _ => "greater_than_equal"
  | tooLarge _ => "less_than_equal"
  | notAbove _ => "greater_than"
  | notBoolean => "bool_type"
  | booleanUnreadable => "bool_parsing"
  | notOneOf _ => "enum"
  | notList => "list_type"
  | listTooShort _ _ => "too_short"
  | listTooLong _ _ => "too_long"
  | notDictionary => "dict_type"
  | notRecord _ => "model_type"
  | notObject => "model_attributes_type"
  | notJson => "json_invalid"
  | notIdentifier => "uuid_type"
  | identifierUnreadable _ => "uuid_parsing"
  | notMoment => "datetime_type"
  | momentUnreadable _ => "datetime_from_date_parsing"
  | momentOutOfReach _ => "datetime_parsing"
  | noSuchField _ => "no_such_attribute"
  | unexpected => "extra_forbidden"
  | refused _ => "value_error"

def message : Cause → String
  | missing => "Field required"
  | notText => "Input should be a valid string"
  | textTooShort n => "String should have at least " ++ plural n "character"
  | textTooLong n => "String should have at most " ++ plural n "character"
  | patternMismatch p => s!"String should match pattern '{p}'"
  | notInteger => "Input should be a valid integer"
  | integerUnreadable => "Input should be a valid integer, unable to parse string as an integer"
  | integerTooLong =>
    "Unable to parse input string as an integer, exceeded maximum size"
  | integerHasFraction =>
    "Input should be a valid integer, got a number with a fractional part"
  | notFinite => "Input should be a finite number"
  | notNumber => "Input should be a valid number"
  | numberUnreadable => "Input should be a valid number, unable to parse string as a number"
  | tooSmall n => s!"Input should be greater than or equal to {n}"
  | tooLarge n => s!"Input should be less than or equal to {n}"
  | notAbove n => s!"Input should be greater than {n}"
  | notBoolean => "Input should be a valid boolean"
  | booleanUnreadable => "Input should be a valid boolean, unable to interpret input"
  | notOneOf names => s!"Input should be {alternatives names}"
  | notList => "Input should be a valid list"
  | listTooShort least found =>
    "List should have at least " ++ plural least "item" ++ s!" after validation, not {found}"
  | listTooLong most found =>
    "List should have at most " ++ plural most "item" ++ s!" after validation, not {found}"
  | notDictionary => "Input should be a valid dictionary"
  | notRecord name => s!"Input should be a valid dictionary or instance of {name}"
  | notObject => "Input should be a valid dictionary or object to extract fields from"
  | notJson => "JSON decode error"
  | notIdentifier => "UUID input should be a string, bytes or UUID object"
  | identifierUnreadable detail => s!"Input should be a valid UUID, {detail}"
  | notMoment => "Input should be a valid datetime"
  | momentUnreadable detail => s!"Input should be a valid datetime or date, {detail}"
  | momentOutOfReach detail => s!"Input should be a valid datetime, {detail}"
  | noSuchField name => s!"Object has no attribute '{name}'"
  | unexpected => "Extra inputs are not permitted"
  | refused reason => s!"Value error, {reason}"

end Cause

/-- A cause and the way to the value that it concerns. -/
structure Problem where
  path : List String
  cause : Cause
  deriving Repr, DecidableEq

def Problem.json (p : Problem) : Json :=
  .obj [("loc", .arr (p.path.map .str)), ("type", .str p.cause.code),
    ("msg", .str p.cause.message)]

/-- A checked value, or all that is wrong with it. -/
inductive Checked (α : Type) where
  | good (value : α)
  | bad (problems : List Problem)

namespace Checked

variable {α β : Type}

def map (f : α → β) : Checked α → Checked β
  | good a => good (f a)
  | bad ps => bad ps

/-- Applies a checked function; problems of both sides are kept. -/
def seq : Checked (α → β) → (Unit → Checked α) → Checked β
  | good f, a => (a ()).map f
  | bad ps, a =>
    match a () with
    | good _ => bad ps
    | bad qs => bad (ps ++ qs)

instance : Applicative Checked where
  pure := good
  map := map
  seq := seq

/-- A further check that is made only if there are no problems so far. -/
def andThen (c : Checked α) (f : α → Checked β) : Checked β :=
  match c with
  | good a => f a
  | bad ps => bad ps

def toOption : Checked α → Option α
  | good a => some a
  | bad _ => none

def fail (cause : Cause) : Checked α := bad [⟨[], cause⟩]

/-- Puts a step in front of the path of every problem. -/
def under (step : String) : Checked α → Checked α
  | good a => good a
  | bad ps => bad (ps.map fun p => { p with path := step :: p.path })

/-- Checks a list item by item, each under its position. -/
def each (check : Nat → α → Checked β) (items : List α) : Checked (List β) :=
  go 0 items
where
  go (i : Nat) : List α → Checked (List β)
    | [] => good []
    | a :: rest => List.cons <$> (check i a).under (toString i) <*> go (i + 1) rest

end Checked

end ReviewDesk
