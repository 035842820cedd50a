import SmartFolder.Problem

/-!
# Failures

The reasons for which an operation gives up, and their messages.
-/

namespace SmartFolder

inductive Failure where
  /-- A date value ends in a unit word but has no count. -/
  | malformedValue (value : String)
  /-- The count of a date value has too many digits to read. -/
  | oversizedCount (digits : Nat)
  /-- A relative date cannot have this count. -/
  | negativeCount (count : Int)
  /-- A text is no name of the vocabulary. -/
  | unknownName (text vocabulary : String)
  | listener (message : String)
  /-- A detail in a call of the journal has the name of one of the method's own arguments. -/
  | repeated (method argument : String)
  deriving DecidableEq, Repr

namespace Failure

def details : Failure → List (String × Json)
  | malformedValue value => [("value", .text value)]
  | negativeCount count => [("count", .int count)]
  | _ => []

def message : Failure → String
  | malformedValue value =>
    Problem.text ⟨.malformedValue, "malformed criteria value", (malformedValue value).details⟩
  | negativeCount count =>
    Problem.text ⟨.malformedValue, "relative date count must not be negative",
      (negativeCount count).details⟩
  | oversizedCount digits =>
    "Exceeds the limit (4300 digits) for integer string conversion: value has " ++ digits.repr ++
      " digits; use sys.set_int_max_str_digits() to increase the limit"
  | unknownName text vocabulary => Text.quote text ++ " is not a valid " ++ vocabulary
  | listener message => "callback failed on " ++ message
  | repeated method argument =>
    "Diagnostics." ++ method ++ "() got multiple values for argument " ++ Text.quote argument

end Failure

end SmartFolder
