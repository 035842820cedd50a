import SmartFolder.Vocabulary

/-!
# Operators, relations, conditions and connectives

A clause relates its field to its value by an `Operator`, a comparison relates its operands by a
`Relation`. A group joins its members by a `Condition`, a compound predicate by a `Connective`.
-/

namespace SmartFolder

/-- The operators a user can pick for a clause. -/
inductive Operator where
  | equalTo
  | notEqualTo
  | lessThan
  | greaterThan
  | lessThanOrEqualTo
  | greaterThanOrEqualTo
  | contains
  | containsNot
  | before
  | after
  | onOrBefore
  | onOrAfter
  | under
  | notUnder
  deriving DecidableEq, Repr

/-- The operators of a native comparison. -/
inductive Relation where
  | equal
  | notEqual
  | less
  | greater
  | lessOrEqual
  | greaterOrEqual
  | contains
  | beginsWith
  | endsWith
  | like
  | matching
  | within
  deriving DecidableEq, Repr

inductive Condition where
  | all
  | any
  | none
  | invalid
  deriving DecidableEq, Repr

inductive Connective where
  | and
  | or
  | not
  deriving DecidableEq, Repr

/-! ### Written names -/

namespace Operator

def name : Operator → String
  | equalTo => "equalTo"
  | notEqualTo => "notEqualTo"
  | lessThan => "lessThan"
  | greaterThan => "greaterThan"
  | lessThanOrEqualTo => "lessThanOrEqualTo"
  | greaterThanOrEqualTo => "greaterThanOrEqualTo"
  | contains => "contains"
  | containsNot => "containsNot"
  | before => "before"
  | after => "after"
  | onOrBefore => "onOrBefore"
  | onOrAfter => "onOrAfter"
  | under => "under"
  | notUnder => "notUnder"

instance : Vocabulary Operator where
  all := [equalTo, notEqualTo, lessThan, greaterThan, lessThanOrEqualTo, greaterThanOrEqualTo,
    contains, containsNot, before, after, onOrBefore, onOrAfter, under, notUnder]
  name := name
  mem_all a := by cases a <;> simp
  name_inj a b h := by cases a <;> cases b <;> simp [name] at h ⊢

/-- The name by which notices refer to an operator. -/
def label : Operator → String
  | equalTo => "CriteriaOperator.EQUAL_TO"
  | notEqualTo => "CriteriaOperator.NOT_EQUAL_TO"
  | lessThan => "CriteriaOperator.LESS_THAN"
  | greaterThan => "CriteriaOperator.GREATER_THAN"
  | lessThanOrEqualTo => "CriteriaOperator.LESS_THAN_OR_EQUAL_TO"
  | greaterThanOrEqualTo => "CriteriaOperator.GREATER_THAN_OR_EQUAL_TO"
  | contains => "CriteriaOperator.CONTAINS"
  | containsNot => "CriteriaOperator.CONTAINS_NOT"
  | before => "CriteriaOperator.BEFORE"
  | after => "CriteriaOperator.AFTER"
  | onOrBefore => "CriteriaOperator.ON_OR_BEFORE"
  | onOrAfter => "CriteriaOperator.ON_OR_AFTER"
  | under => "CriteriaOperator.UNDER"
  | notUnder => "CriteriaOperator.NOT_UNDER"

end Operator

namespace Relation

def symbol : Relation → String
  | equal => "=="
  | notEqual => "!="
  | less => "<"
  | greater => ">"
  | lessOrEqual => "<="
  | greaterOrEqual => ">="
  | contains => "CONTAINS"
  | beginsWith => "BEGINSWITH"
  | endsWith => "ENDSWITH"
  | like => "LIKE"
  | matching => "MATCHES"
  | within => "IN"

instance : Vocabulary Relation where
  all := [equal, notEqual, less, greater, lessOrEqual, greaterOrEqual, contains, beginsWith,
    endsWith, like, matching, within]
  name := symbol
  mem_all a := by cases a <;> simp
  name_inj a b h := by cases a <;> cases b <;> simp [symbol] at h ⊢

end Relation

namespace Condition

def name : Condition → String
  | all => "all"
  | any => "any"
  | none => "none"
  | invalid => "invalid"

instance : Vocabulary Condition where
  all := [all, any, none, invalid]
  name := name
  mem_all a := by cases a <;> simp
  name_inj a b h := by cases a <;> cases b <;> simp [name] at h ⊢

end Condition

namespace Connective

def name : Connective → String
  | and => "AND"
  | or => "OR"
  | not => "NOT"

instance : Vocabulary Connective where
  all := [and, or, not]
  name := name
  mem_all a := by cases a <;> simp
  name_inj a b h := by cases a <;> cases b <;> simp [name] at h ⊢

end Connective

/-! ### From clauses to comparisons -/

/-- The relation that expresses an operator. `containsNot` is expressed by the relation of
`contains` under a negation. -/
def Operator.relation : Operator → Relation
  | equalTo => .equal
  | notEqualTo => .notEqual
  | lessThan | before | under => .less
  | greaterThan | after => .greater
  | lessThanOrEqualTo | onOrBefore => .lessOrEqual
  | greaterThanOrEqualTo | onOrAfter | notUnder => .greaterOrEqual
  | contains | containsNot => .contains

theorem Operator.relation_eq_notEqual_iff {op : Operator} :
    op.relation = .notEqual ↔ op = .notEqualTo := by
  cases op <;> decide

theorem Operator.relation_eq_greater_iff {op : Operator} :
    op.relation = .greater ↔ op = .greaterThan ∨ op = .after := by
  cases op <;> decide

/-- The condition that a connective is read as. -/
def Connective.condition : Connective → Condition
  | and => .all
  | or => .any
  | not => .none

end SmartFolder
