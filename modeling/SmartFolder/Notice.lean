import SmartFolder.Level
import SmartFolder.Predicate.Display
import SmartFolder.Text.Quoted

/-!
# Notices

What going between filters and predicates has to say about the input. None of it stops the
work; each notice goes with a substitute that is used instead.
-/

namespace SmartFolder

inductive Notice where
  /-- No relation expresses the operator; equality is used. -/
  | noRelation (operator : String)
  /-- A date value ends in a unit word without a count; it is compared as it stands. -/
  | malformedValue (field value : String)
  /-- The field is none of an article's. -/
  | unknownField (field : String)
  /-- The relation does not suit the field; `equalTo` is used. -/
  | unsuitable (field : String) (relation : Relation)
  /-- A part of a compound has no filter; it is left out. -/
  | corrupted (part whole : Predicate)
  deriving DecidableEq

namespace Notice

def level : Notice → Level
  | malformedValue _ _ => .error
  | _ => .warning

def message : Notice → String
  | noRelation operator =>
    "No proper predicate conversion found for " ++ operator ++ ", defaulting to " ++
      Relation.equal.symbol
  | malformedValue _ value =>
    "Malformed criteria value " ++ Text.quote value ++ ", compiling it as a plain comparison"
  | unknownField field => "Unknown field " ++ field
  | unsuitable field relation =>
    "Predicate for " ++ field ++ " has unsuitable operator " ++ relation.symbol ++
      ", will default to " ++ Operator.equalTo.name
  | corrupted part whole =>
    "Subpredicate " ++ part.display ++ " of compound predicate " ++ whole.display ++
      " is corrupted, cannot be converted to a criteria element"

def details : Notice → List (String × Json)
  | noRelation operator => [("operator", .text operator)]
  | malformedValue field value => [("field", .text field), ("value", .text value)]
  | unknownField field => [("field", .text field)]
  | unsuitable field relation => [("field", .text field), ("operator", .text relation.symbol)]
  | corrupted part _ => [("subpredicate", .text part.display)]

end Notice

end SmartFolder
