import CardRules.Value.Writing

/-!
# Issues

What a check finds wrong with a value, and where: a path of keys and places from the top of the value
checked. Every issue has a kind, a word for programs, and a text, a sentence for people.
-/

namespace CardRules.Schema

/-- A step of a path into a value. -/
inductive Step where
  | key (k : String)
  | place (i : Nat)
  deriving DecidableEq, Repr

def Step.text : Step → String
  | .key k => k
  | .place i => toString i

inductive Problem where
  | missing
  | notText
  | notWhole
  | notFinite
  | hasFraction
  | tooLargeForWhole
  | unreadableWhole
  | notTruth
  | unreadableTruth
  | notNumber
  | unreadableNumber
  | notList
  | notObject
  /-- Not an object, where a model of the given name was expected. -/
  | notModel (name : String)
  deriving DecidableEq, Repr

/-- The kind of a problem. -/
def Problem.kind : Problem → String
  | .missing => "missing"
  | .notText => "string_type"
  | .notWhole => "int_type"
  | .notFinite => "finite_number"
  | .hasFraction => "int_from_float"
  | .tooLargeForWhole => "int_parsing_size"
  | .unreadableWhole => "int_parsing"
  | .notTruth => "bool_type"
  | .unreadableTruth => "bool_parsing"
  | .notNumber => "float_type"
  | .unreadableNumber => "float_parsing"
  | .notList => "list_type"
  | .notObject => "dict_type"
  | .notModel _ => "model_type"

/-- A problem in words. -/
def Problem.text : Problem → String
  | .missing => "Field required"
  | .notText => "Input should be a valid string"
  | .notWhole => "Input should be a valid integer"
  | .notFinite => "Input should be a finite number"
  | .hasFraction => "Input should be a valid integer, got a number with a fractional part"
  | .tooLargeForWhole =>
    "Unable to parse input string as an integer, exceeded maximum size"
  | .unreadableWhole =>
    "Input should be a valid integer, unable to parse string as an integer"
  | .notTruth => "Input should be a valid boolean"
  | .unreadableTruth => "Input should be a valid boolean, unable to interpret input"
  | .notNumber => "Input should be a valid number"
  | .unreadableNumber =>
    "Input should be a valid number, unable to parse string as a number"
  | .notList => "Input should be a valid list"
  | .notObject => "Input should be a valid dictionary"
  | .notModel name => s!"Input should be a valid dictionary or instance of {name}"

structure Issue where
  path : List Step
  problem : Problem
  deriving DecidableEq, Repr

/-- The issue as found one step further up. -/
def Issue.under (s : Step) (i : Issue) : Issue := { i with path := s :: i.path }

end CardRules.Schema
