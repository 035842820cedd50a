import SmartFolder.Vocabulary

/-!
# Faults

A document that does not have its expected form has faults, each at a path into the document. Some
messages depend on whether the document was a value or a JSON text.
-/

namespace SmartFolder

inductive PathStep where
  | key (name : String)
  | index (i : Nat)
  deriving DecidableEq, Repr

inductive Origin where
  | value
  | text
  deriving DecidableEq, Repr

inductive Cause where
  | notJson
  | missing
  | notText
  | notObject (origin : Origin)
  /-- A whole document that should be an object of some model. -/
  | notModel (origin : Origin) (model : String)
  /-- An element of a list that should be an object. -/
  | notElement (origin : Origin)
  | notList (origin : Origin)
  | notNamed (names : List String)
  | notLiteral (texts : List String)
  | untagged
  | wrongTag (tag : String) (tags : List String)
  | notInteger
  | fractional
  | notFinite
  | oversizedInteger
  | unreadableInteger
  | negative
  | notBool
  | unreadableBool
  | ambiguousOperand
  | frozen
  deriving DecidableEq, Repr

structure Fault where
  path : List PathStep
  cause : Cause
  deriving DecidableEq, Repr

structure Refusal where
  model : String
  faults : List Fault
  deriving DecidableEq, Repr

/-- Choices in a message: in quotes, the last one after `or`. -/
def alternatives (texts : List String) : String :=
  let quoted := texts.map fun s => "\x27" ++ s ++ "\x27"
  match quoted.reverse with
  | [] => ""
  | [s] => s
  | last :: others => ", ".intercalate others.reverse ++ " or " ++ last

namespace Cause

def code : Cause → String
  | notJson => "json_invalid"
  | missing => "missing"
  | notText => "string_type"
  | notObject _ | notElement .text => "dict_type"
  | notModel _ _ => "model_type"
  | notElement .value => "model_attributes_type"
  | notList _ => "tuple_type"
  | notNamed _ => "enum"
  | notLiteral _ => "literal_error"
  | untagged => "union_tag_not_found"
  | wrongTag _ _ => "union_tag_invalid"
  | notInteger => "int_type"
  | fractional => "int_from_float"
  | notFinite => "finite_number"
  | oversizedInteger => "int_parsing_size"
  | unreadableInteger => "int_parsing"
  | negative => "greater_than_equal"
  | notBool => "bool_type"
  | unreadableBool => "bool_parsing"
  | ambiguousOperand => "value_error"
  | frozen => "frozen_instance"

/-- The message for a cause. What is wrong with a text that is no JSON is not told. -/
def message? : Cause → Option String
  | notJson => none
  | missing => some "Field required"
  | notText => some "Input should be a valid string"
  | notObject .value => some "Input should be a valid dictionary"
  | notObject .text | notModel .text _ | notElement .text => some "Input should be an object"
  | notModel .value model =>
    some ("Input should be a valid dictionary or instance of " ++ model)
  | notElement .value =>
    some "Input should be a valid dictionary or object to extract fields from"
  | notList .value => some "Input should be a valid tuple"
  | notList .text => some "Input should be a valid array"
  | notNamed texts | notLiteral texts => some ("Input should be " ++ alternatives texts)
  | untagged => some "Unable to extract tag using discriminator 'kind'"
  | wrongTag tag tags =>
    some ("Input tag '" ++ tag ++
      "' found using 'kind' does not match any of the expected tags: " ++
      ", ".intercalate (tags.map fun s => "\x27" ++ s ++ "\x27"))
  | notInteger => some "Input should be a valid integer"
  | fractional => some "Input should be a valid integer, got a number with a fractional part"
  | notFinite => some "Input should be a finite number"
  | oversizedInteger =>
    some "Unable to parse input string as an integer, exceeded maximum size"
  | unreadableInteger =>
    some "Input should be a valid integer, unable to parse string as an integer"
  | negative => some "Input should be greater than or equal to 0"
  | notBool => some "Input should be a valid boolean"
  | unreadableBool => some "Input should be a valid boolean, unable to interpret input"
  | ambiguousOperand =>
    some "Value error, expression needs exactly one of constant_value or key_path"
  | frozen => some "Instance is frozen"

end Cause

end SmartFolder
